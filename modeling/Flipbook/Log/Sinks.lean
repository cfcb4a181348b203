import Flipbook.Log.Csv
import Flipbook.Log.Layout
import Flipbook.Settings.Logging

/-!
Where records go: to the console, to a file, to both, or, from warnings up, as bare messages to the
console when nothing else is set up.
-/

namespace Flipbook.Log

structure Console where
  level : Level
  colored : Bool

structure Sinks where
  console : Option Console := none
  file : Bool := false

structure Stamp where
  consoleTime : String
  fileTime : String
  duration : String
  line : String

namespace Console

/-- Names of levels that settings may hold in upper case. An unknown name counts as the level for
information. Two names stand for something that is no level. -/
def levelOf (name : String) : Except Fault Level :=
  if name = "DEBUG" then .ok .debug
  else if name = "INFO" then .ok .info
  else if name = "WARNING" ∨ name = "WARN" then .ok .warning
  else if name = "ERROR" then .ok .error
  else if name = "CRITICAL" ∨ name = "FATAL" then .ok .critical
  else if name = "NOTSET" then .ok .unset
  else if name = "BASIC_FORMAT" then
    .error (.unknownLogLevel "%(levelname)s:%(name)s:%(message)s")
  else if name = "_STYLES" then
    .error (.notALogLevel
      ("\x7b'%': (<class 'logging.PercentStyle'>, '%(levelname)s:%(name)s:%(message)s'), " ++
        "'\x7b': (<class 'logging.StrFormatStyle'>, " ++
        "'\x7blevelname\x7d:\x7bname\x7d:\x7bmessage\x7d'), " ++
        "'$': (<class 'logging.StringTemplateStyle'>, " ++
        "'$\x7blevelname\x7d:$\x7bname\x7d:$\x7bmessage\x7d')\x7d"))
  else .ok .info

def line (console : Console) (record : Record) (time : String) : String :=
  let plain := consoleLayout.render record time
  String.ofList (if console.colored then colorLine record.level plain else plain)

end Console

namespace Sinks

def consoleLine? (sinks : Sinks) (record : Record) (stamp : Stamp) : Option String :=
  match sinks.console with
  | some console =>
    if console.level.rank ≤ record.level.rank then some (console.line record stamp.consoleTime)
    else none
  | none =>
    if !sinks.file && Level.warning.rank ≤ record.level.rank then some record.message else none

def fileLine? (sinks : Sinks) (record : Record) (stamp : Stamp) : Option String :=
  if sinks.file then some (csvLineOf record stamp.fileTime stamp.duration stamp.line) else none

end Sinks

end Flipbook.Log
