import Flipbook.Text.Digit
import Flipbook.Text.Split

/-!
Options of the command line and the ways to spell them. A long option may be cut short as long as
only one option begins so.
-/

namespace Flipbook.CommandLine

inductive Switch
  | help
  | define
  | select
  | atlasId
  | settingsFile
  | version
deriving DecidableEq

namespace Switch

def spellings : List (String × Switch) :=
  [("-h", help), ("--help", help), ("-d", define), ("--define", define), ("-s", select),
    ("--select", select), ("--atlas-id", atlasId), ("--settings-file", settingsFile),
    ("--version", version)]

def title : Switch → String
  | help => "-h/--help"
  | define => "-d/--define"
  | select => "-s/--select"
  | atlasId => "--atlas-id"
  | settingsFile => "--settings-file"
  | version => "--version"

def takesValue : Switch → Bool
  | help | version => false
  | _ => true

def ofSpelling? (spelling : List Char) : Option Switch :=
  (spellings.find? fun entry => entry.1.toList = spelling).map (·.2)

end Switch

inductive Mark
  | plain
  | dashes
  | switch (switch : Switch) (long : Bool) (attached : Option (List Char))
  | unknownSwitch

namespace Mark

def isPlain : Mark → Bool
  | plain => true
  | _ => false

def isDashes : Mark → Bool
  | dashes => true
  | _ => false

def isSwitch : Mark → Bool
  | switch .. | unknownSwitch => true
  | _ => false

def splitEquals (argument : List Char) : List Char × Option (List Char) :=
  match Text.splitFirst? '=' argument with
  | some (beginning, value) => (beginning, some value)
  | none => (argument, none)

def isLong (spelling : List Char) : Bool := ['-', '-'].isPrefixOf spelling

def longMatches (argument : List Char) : List (String × Mark) :=
  let (beginning, value) := splitEquals argument
  (Switch.spellings.filter fun entry => beginning.isPrefixOf entry.1.toList).map
    fun (spelling, found) =>
      (spelling, switch found (isLong spelling.toList) value)

def shortMatches (argument : List Char) : List (String × Mark) :=
  (Switch.spellings.filter fun entry => entry.1.toList = argument.take 2).map
    fun (spelling, found) => (spelling, switch found false (some (argument.drop 2)))

/-- Whether an argument that begins with a dash is a negative number. A line feed may end it. -/
def isNegativeNumber (argument : List Char) : Bool :=
  let isDigit := fun c => (Text.decimalDigit? c).isSome
  let ends (text : List Char) : Bool := text = [] || text = ['\n']
  match argument with
  | '-' :: digits =>
    let rest := digits.dropWhile isDigit
    (!(digits.takeWhile isDigit).isEmpty && ends rest) ||
      (match rest with
        | '.' :: fraction =>
          !(fraction.takeWhile isDigit).isEmpty && ends (fraction.dropWhile isDigit)
        | _ => false)
  | _ => false

def ofOther (argument : List Char) : Mark :=
  if isNegativeNumber argument || argument.contains ' ' then plain else unknownSwitch

def read (argument : String) : Except String Mark :=
  let characters := argument.toList
  match characters with
  | '-' :: _ :: _ =>
    match Switch.ofSpelling? characters with
    | some found => .ok (switch found (isLong characters) none)
    | none =>
      let (beginning, value) := splitEquals characters
      match value.bind fun value => (Switch.ofSpelling? beginning).map fun found => (found, value)
        with
      | some (found, value) => .ok (switch found (isLong beginning) (some value))
      | none =>
        match if isLong characters then longMatches characters else shortMatches characters with
        | [] => .ok (ofOther characters)
        | [(_, mark)] => .ok mark
        | several =>
          .error ("ambiguous option: " ++ argument ++ " could match " ++
            String.intercalate ", " (several.map (·.1)))
  | _ => .ok plain

def readAll : List String → Except String (List (String × Mark))
  | [] => .ok []
  | argument :: rest =>
    if argument = "--" then
      .ok ((argument, dashes) :: rest.map fun other => (other, plain))
    else do
      let mark ← read argument
      let marks ← readAll rest
      pure ((argument, mark) :: marks)

end Mark

end Flipbook.CommandLine
