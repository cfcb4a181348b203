import Flipbook.Settings.Logging

/-!
Check of settings as a whole. Errors forbid the use of the settings, warnings do not.
-/

namespace Flipbook.Settings

structure Findings where
  errors : List String
  warnings : List String

def Findings.isValid (findings : Findings) : Bool := findings.errors.isEmpty

def workersErrors (workers : Int) : List String :=
  if workers ≤ 0 then ["atlas/max_workers must be positive: " ++ toString workers] else []

def workersWarnings (workers : Int) : List String :=
  if 32 < workers then ["atlas/max_workers is unusually large: " ++ toString workers] else []

def timeoutErrors (timeout : Binary64) : List String :=
  if timeout.compareInt 0 = some .lt then
    ["atlas/load_timeout must not be negative: " ++ timeout.text]
  else []

def timeoutWarnings (timeout : Binary64) : List String :=
  if timeout.isZero then ["atlas/load_timeout is 0, page requests may wait forever"] else []

def levelErrors (level : String) : List String :=
  let upper := Text.uppercase level
  if upper ∈ validLevels then [] else ["Invalid console log level: " ++ upper]

def silenceWarnings (settings : Settings) : List String :=
  if settings.consoleLogging || settings.fileLogging then []
  else ["Console and file logging are both disabled"]

variable [Limits]

def validate (settings : Settings) : Except Fault Findings := do
  let workers ← settings.maxWorkers
  let timeout ← settings.loadTimeout
  let level ← settings.consoleLogLevel
  pure
    { errors := workersErrors workers ++ timeoutErrors timeout ++ levelErrors level
      warnings := workersWarnings workers ++ timeoutWarnings timeout ++
        settings.silenceWarnings }

end Flipbook.Settings
