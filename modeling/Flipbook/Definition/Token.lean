import Flipbook.Diagnostic
import Flipbook.Text.Digit

/-!
Tokens of an animation definition: numbers, commas, hyphens and parentheses. Spaces separate
tokens, and every other character is reported and left out.
-/

namespace Flipbook.Definition

inductive Token.Kind
  | number
  | comma
  | hyphen
  | openParen
  | closeParen
deriving DecidableEq

def Token.Kind.text : Token.Kind → String
  | .number => "NUMBER"
  | .comma => "COMMA"
  | .hyphen => "HYPHEN"
  | .openParen => "OPEN_PAREN"
  | .closeParen => "CLOSE_PAREN"

structure Token where
  kind : Token.Kind
  value : Int := -1
  position : Int := 0
deriving DecidableEq

def punctuation? : Char → Option Token.Kind
  | ',' => some .comma
  | '-' => some .hyphen
  | '(' => some .openParen
  | ')' => some .closeParen
  | _ => none

/-- Progress of reading a definition from left to right. The latest token comes first, and
`inNumber` says that the character just read was a digit of it. -/
structure Scan where
  offset : Nat := 0
  tokens : List Token := []
  inNumber : Bool := false

def Scan.digit (scan : Scan) (value : Nat) : Scan :=
  let fresh := ⟨.number, value, scan.offset⟩
  { offset := scan.offset + 1
    inNumber := true
    tokens :=
      match scan.inNumber, scan.tokens with
      | true, token :: earlier => { token with value := token.value * 10 + value } :: earlier
      | _, tokens => fresh :: tokens }

def Scan.step (scan : Scan) (c : Char) : Scan :=
  match Text.asciiDigit? c with
  | some value => scan.digit value
  | none =>
    { offset := scan.offset + 1
      inNumber := false
      tokens :=
        match punctuation? c with
        | some kind => ⟨kind, -1, scan.offset⟩ :: scan.tokens
        | none => scan.tokens }

def tokens (definition : String) : List Token :=
  (definition.toList.foldl Scan.step {}).tokens.reverse

def isAccepted (c : Char) : Bool :=
  (Text.asciiDigit? c).isSome || (punctuation? c).isSome || c == ' '

def badCharacter (definition : String) (offset : Nat) (c : Char) : Diagnostic :=
  { code := .badCharacter
    message := "Unexpected character while processing animation definition: " ++
      "expected 0123456789,-(), got " ++ String.singleton c ++ "."
    source := some definition
    offset := some offset }

def badCharacters (definition : String) : List (Char × Nat) :=
  definition.toList.zipIdx.filter fun (c, _) => !isAccepted c

def tokenDiagnostics (definition : String) : List Diagnostic :=
  (badCharacters definition).map fun (c, offset) => badCharacter definition offset c

end Flipbook.Definition
