import Flipbook.Page
import Flipbook.Text.Split
import Flipbook.Value.Integer

/-!
Arguments that name a definition or select frames. Digits alone select a frame, digits on both
sides of a colon a range, and any other text a group.
-/

namespace Flipbook

inductive Selector
  | frame (index : Int)
  | range (start stop : Int)
  | group (name : String)
deriving DecidableEq

def readDefinition (argument : String) : Except Fault (String × String) :=
  match Text.splitFirst? '=' argument.toList with
  | some (name, definition) =>
    if name.isEmpty then .error (.malformedDefinitionArgument argument)
    else .ok (String.ofList name, String.ofList definition)
  | none => .error (.malformedDefinitionArgument argument)

namespace Selector

def isDigits (text : List Char) : Bool := !text.isEmpty && text.all Text.isDigit

/-- Some digits stand in no numeral, so a text of digits may still be refused. -/
def read (argument : String) : Except Fault Selector :=
  let whole : Except Fault Selector :=
    if isDigits argument.toList then do pure (frame (← Value.integerOfText argument))
    else .ok (group argument)
  match Text.splitFirst? ':' argument.toList with
  | some (start, stop) =>
    if isDigits start && isDigits stop then do
      let first ← Value.integerOfText (String.ofList start)
      let last ← Value.integerOfText (String.ofList stop)
      pure (range first last)
    else whole
  | none => whole

def text : Selector → String
  | frame index => toString index
  | range start stop => "(" ++ toString start ++ ", " ++ toString stop ++ ")"
  | group name => name

variable [Limits]

def select (selector : Selector) (page : Page) : Report (List Placed) :=
  match selector with
  | frame index => page.byIndex index
  | range start stop => page.byIndices start stop
  | group name => page.byName name

end Selector

end Flipbook
