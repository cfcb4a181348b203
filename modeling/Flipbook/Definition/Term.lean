import Flipbook.Definition.Token

/-!
Comma separated terms of a definition, read by a finite state machine over tokens. A term is a
number, then an optional `-` and number, then an optional number in parentheses. A token that does
not fit is reported and skipped, and a definition that ends within a term keeps what was started.
-/

namespace Flipbook.Definition

def noStop : Int := -1

structure Term where
  start : Int
  stop : Int := noStop
  repeats : Int := 1
deriving DecidableEq

def Term.isHold (term : Term) : Bool := term.stop = noStop || term.stop = term.start

inductive Expecting
  | start
  | afterStart
  | stop
  | afterStop
  | repeats
  | closing
  | separator
deriving DecidableEq

def Expecting.text : Expecting → String
  | .start | .stop | .repeats => "number"
  | .afterStart => "',', '-' or '('"
  | .afterStop => "',' or '('"
  | .closing => "')'"
  | .separator => "','"

def Expecting.next? : Expecting → Token.Kind → Option Expecting
  | .start, .number => some .afterStart
  | .afterStart, .comma => some .start
  | .afterStart, .hyphen => some .stop
  | .afterStart, .openParen => some .repeats
  | .stop, .number => some .afterStop
  | .afterStop, .comma => some .start
  | .afterStop, .openParen => some .repeats
  | .repeats, .number => some .closing
  | .closing, .closeParen => some .separator
  | .separator, .comma => some .start
  | _, _ => none

def reviseLatest (revise : Term → Term) : List Term → List Term
  | [] => []
  | term :: earlier => revise term :: earlier

/-- The terms after a number that fits the state. The latest term comes first. -/
def Expecting.takeNumber (expecting : Expecting) (value : Int) (terms : List Term) : List Term :=
  match expecting with
  | .start => ⟨value, value, 1⟩ :: terms
  | .stop => reviseLatest (fun term => { term with stop := value }) terms
  | .repeats => reviseLatest (fun term => { term with repeats := value }) terms
  | _ => terms

structure Machine where
  expecting : Expecting := .start
  terms : List Term := []
  rejected : List (Expecting × Token) := []

def Machine.step (machine : Machine) (token : Token) : Machine :=
  match machine.expecting.next? token.kind with
  | none => { machine with rejected := (machine.expecting, token) :: machine.rejected }
  | some next =>
    { machine with
      expecting := next
      terms :=
        if token.kind = .number then machine.expecting.takeNumber token.value machine.terms
        else machine.terms }

def Machine.run (tokens : List Token) : Machine :=
  tokens.foldl Machine.step {}

def syntaxError (definition : String) (expecting : Expecting) (token : Token) : Diagnostic :=
  { code := .syntaxError
    message := "Syntax error while processing animation definition: expected " ++
      expecting.text ++ ", got " ++ token.kind.text ++ "."
    source := some definition
    offset := some token.position }

def termsOfTokens (tokens : List Token) : List Term :=
  (Machine.run tokens).terms.reverse

def syntaxDiagnostics (tokens : List Token) (definition : String) : List Diagnostic :=
  (Machine.run tokens).rejected.reverse.map fun (expecting, token) =>
    syntaxError definition expecting token

def terms (definition : String) : List Term :=
  termsOfTokens (tokens definition)

def termDiagnostics (definition : String) : List Diagnostic :=
  tokenDiagnostics definition ++ syntaxDiagnostics (tokens definition) definition

end Flipbook.Definition
