import Flipbook.CommandLine.Option
import Flipbook.CommandLine.Selector

/-!
Arguments of the command line: two sources, and options before, between and after them. They are
read as the argument parser of version 3.11.2 reads them. It removes two dashes also where they are
the value attached to an option, and refuses `-h` with a letter behind it that is no option. Later
versions do neither.
-/

namespace Flipbook.CommandLine

/-- What the arguments say. A source is a text, or an empty list where it consists of two dashes
only. A definition or selector that consists of two dashes only is there, but says nothing. -/
structure Arguments where
  sources : List Value := []
  definitions : List (Option (String × String)) := []
  selectors : List (Option Selector) := []
  atlasId : Option String := none
  settingsFile : Option String := none
  extras : List String := []

inductive Ending
  | help
  | version
  | refused (message : String)

namespace Arguments

abbrev Marked := List (String × Mark)

def sourceNames : List String := ["metadata", "image"]

def refuse {α : Type} (switch : Switch) (message : String) : Except Ending α :=
  .error (.refused ("argument " ++ switch.title ++ ": " ++ message))

def takeValue (arguments : Arguments) (switch : Switch) (value : String) :
    Except Ending Arguments :=
  match switch with
  | .help => .error .help
  | .version => .error .version
  | .define =>
    match readDefinition value with
    | .ok definition =>
      .ok { arguments with definitions := arguments.definitions ++ [some definition] }
    | .error fault => refuse switch fault.message
  | .select =>
    match Selector.read value with
    | .ok selector => .ok { arguments with selectors := arguments.selectors ++ [some selector] }
    | .error _ => refuse switch ("invalid parse_selector value: " ++ Text.quoted value)
  | .atlasId => .ok { arguments with atlasId := some value }
  | .settingsFile => .ok { arguments with settingsFile := some value }

def takeDashes (arguments : Arguments) (switch : Switch) : Except Ending Arguments :=
  match switch with
  | .define => .ok { arguments with definitions := arguments.definitions ++ [none] }
  | .select => .ok { arguments with selectors := arguments.selectors ++ [none] }
  | .atlasId => .ok { arguments with atlasId := none }
  | .settingsFile => .ok { arguments with settingsFile := some (Value.list []).toText }
  | .help => .error .help
  | .version => .error .version

def takeAttached (arguments : Arguments) (switch : Switch) (value : List Char) :
    Except Ending Arguments :=
  if value = ['-', '-'] then arguments.takeDashes switch
  else arguments.takeValue switch (String.ofList value)

def ignoredValue (switch : Switch) (value : List Char) : Ending :=
  .refused ("argument " ++ switch.title ++ ": ignored explicit argument " ++
    Text.quoted (String.ofList value))

def nextIsPlain : Marked → Bool
  | (_, mark) :: _ => mark.isPlain
  | [] => false

/-- How letters after the letter for help end the work. Each is checked as an option of its own, but
help comes before anything that they ask for. -/
def helpCluster (rest : Marked) : List Char → Ending
  | [] => ignoredValue .help []
  | letter :: letters =>
    match Switch.ofSpelling? ['-', letter] with
    | none => ignoredValue .help (letter :: letters)
    | some next =>
      if next.takesValue then
        if letters.isEmpty && !nextIsPlain rest then
          .refused ("argument " ++ next.title ++ ": expected one argument")
        else .help
      else if letters.isEmpty then .help
      else helpCluster rest letters

def takeSwitch (arguments : Arguments) (switch : Switch) (long : Bool)
    (attached : Option (List Char)) (rest : Marked) : Except Ending (Arguments × Marked) :=
  match attached with
  | some value =>
    if switch.takesValue then do
      let next ← arguments.takeAttached switch value
      pure (next, rest)
    else if long then .error (ignoredValue switch value)
    else .error (helpCluster rest value)
  | none =>
    if switch.takesValue then
      match rest with
      | (value, .plain) :: rest => do
        let next ← arguments.takeValue switch value
        pure (next, rest)
      | _ => refuse switch "expected one argument"
    else do
      let next ← arguments.takeValue switch ""
      pure (next, rest)

def sourceValue (texts : List String) : Value :=
  match texts.erase "--" with
  | [text] => .text text
  | texts => .list (texts.map .text)

def takeSource? (marked : Marked) : Option (Value × Marked) :=
  let isDashes := fun (entry : String × Mark) => entry.2.isDashes
  match marked.dropWhile isDashes with
  | (text, .plain) :: rest =>
    let before := (marked.takeWhile isDashes).map (·.1)
    let after := (rest.takeWhile isDashes).map (·.1)
    some (sourceValue (before ++ [text] ++ after), rest.dropWhile isDashes)
  | _ => none

def takeSources (arguments : Arguments) : (wanted : Nat) → Marked → Arguments × Marked
  | 0, marked => (arguments, marked)
  | wanted + 1, marked =>
    match takeSource? marked with
    | some (source, rest) =>
      takeSources { arguments with sources := arguments.sources ++ [source] } wanted rest
    | none => (arguments, marked)

def missingSources (arguments : Arguments) : Nat := sourceNames.length - arguments.sources.length

def setAside (arguments : Arguments) (marked : Marked) : Arguments :=
  { arguments with extras := arguments.extras ++ marked.map (·.1) }

def takeFirstSwitch (arguments : Arguments) (marked : Marked) :
    Except Ending (Arguments × Marked) :=
  match marked with
  | (_, .switch switch long attached) :: rest => arguments.takeSwitch switch long attached rest
  | other :: rest => .ok (arguments.setAside [other], rest)
  | [] => .ok (arguments, [])

/-- Takes sources and options in turn as long as options are left, and then the last sources. Each
round takes at least one argument, so the number of arguments is fuel enough. -/
def takeAll : (fuel : Nat) → Arguments → Marked → Except Ending Arguments
  | 0, arguments, marked => .ok (arguments.setAside marked)
  | fuel + 1, arguments, marked =>
    if marked.any (·.2.isSwitch) then
      let (next, rest) :=
        if nextIsSwitch marked then (arguments, marked)
        else arguments.takeSources arguments.missingSources marked
      if rest.length < marked.length then takeAll fuel next rest
      else do
        let unused := marked.takeWhile fun entry => !entry.2.isSwitch
        let rest := marked.dropWhile fun entry => !entry.2.isSwitch
        let (next, rest) ← (arguments.setAside unused).takeFirstSwitch rest
        takeAll fuel next rest
    else
      let (next, rest) := arguments.takeSources arguments.missingSources marked
      .ok (next.setAside rest)
where
  nextIsSwitch : Marked → Bool
    | (_, mark) :: _ => mark.isSwitch
    | [] => false

def read (argv : List String) : Except Ending Arguments :=
  match Mark.readAll argv with
  | .error message => .error (.refused message)
  | .ok marked => do
    let arguments ← takeAll (marked.length + 1) {} marked
    if arguments.missingSources ≠ 0 then
      throw (.refused ("the following arguments are required: " ++
        String.intercalate ", " (sourceNames.drop arguments.sources.length)))
    if arguments.extras ≠ [] then
      throw (.refused ("unrecognized arguments: " ++ String.intercalate " " arguments.extras))
    pure arguments

end Arguments

end Flipbook.CommandLine
