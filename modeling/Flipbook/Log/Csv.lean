import Flipbook.Log.Record
import Flipbook.Log.TimePattern
import Flipbook.Value.Integer
import Flipbook.Value.Written

/-!
Lines of a log file with six fields between semicolons. All fields but the level stand in double
quotes, and a double quote of the message is written twice.
-/

namespace Flipbook.Log

def fileTimePattern : String := "%Y-%m-%d %H:%M:%S"

def doubleQuotes (text : List Char) : List Char :=
  text.flatMap fun c => if c = '"' then ['"', '"'] else [c]

def csvLineOf (record : Record) (time duration line : String) : String :=
  "\"" ++ time ++ "\";" ++ record.level.paddedName ++ ";\"" ++ duration ++ "\";\"" ++
    record.logger ++ "\";\"" ++ line ++ "\";\"" ++
    String.ofList (doubleQuotes record.message.toList) ++ "\""

variable [Limits]

def csvLine (event : Event) (pattern : Option String) : Except Fault String := do
  let time ← event.moment.render pattern
  let elapsed ← Value.integerOfFloat event.elapsed
  let line ← (Value.int event.line).written
  pure (csvLineOf event.record time (toString elapsed ++ " ms") line)

end Flipbook.Log
