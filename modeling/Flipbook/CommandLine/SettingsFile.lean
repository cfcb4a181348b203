import Flipbook.Settings
import Flipbook.Text.Split

/-!
Settings files: lines of a key, an equals sign and the text of a value. Other lines are comments.
-/

namespace Flipbook.CommandLine.SettingsFile

def readLine? (line : List Char) : Option (String × Value) :=
  (Text.splitFirst? '=' line).map fun (key, value) =>
    (String.ofList key, .text (String.ofList value))

def read (text : String) : Store :=
  Keyed.ofPairs ((Text.splitAll '\n' text.toList).filterMap readLine?)

end Flipbook.CommandLine.SettingsFile
