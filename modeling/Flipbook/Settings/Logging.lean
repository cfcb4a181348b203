import Flipbook.Settings.Atlas

/-!
Settings of the log on the console and in a file.
-/

namespace Flipbook.Settings

def loggingLogger : String := "sprite_atlas.settings.logging"

def logFilePath : String := "logs/sprite_atlas.csv"

def validLevels : List String := ["DEBUG", "INFO", "WARNING", "ERROR", "CRITICAL"]

def consoleLogging (settings : Settings) : Bool := settings.switch "logging/console_enabled" false

variable [Limits]

def consoleLogLevel (settings : Settings) : Except Fault String :=
  settings.textOr "logging/console_level" "INFO"

def consoleUseColors (settings : Settings) : Bool :=
  settings.switch "logging/console_use_colors" true

def fileLogging (settings : Settings) : Bool := settings.switch "logging/file_enabled" false

def setConsoleLogging (settings : Settings) (value : Value) : Settings :=
  settings.put "logging/console_enabled" value

def refuseLevel (settings : Settings) (value : Value) : Report Settings := do
  let current ← .ofExcept settings.consoleLogLevel
  settings.refuse loggingLogger ("Invalid console log level: " ++ value.toText ++
    ", keeping current: " ++ current)

/-- A level is stored in upper case. Octets have an upper case too, but are no level. -/
def setConsoleLogLevel (settings : Settings) (value : Value) : Report Settings :=
  match value with
  | .text text =>
    let level := Text.uppercase text
    if level ∈ validLevels then .ok (settings.put "logging/console_level" (.text level))
    else settings.refuseLevel value
  | .octets _ => settings.refuseLevel value
  | value => .fail (.noAttribute value.kind "upper")

def setConsoleUseColors (settings : Settings) (value : Value) : Settings :=
  settings.put "logging/console_use_colors" value

def setFileLogging (settings : Settings) (value : Value) : Settings :=
  settings.put "logging/file_enabled" value

end Flipbook.Settings
