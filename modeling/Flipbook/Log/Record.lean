import Flipbook.Log.Clock

/-!
Records of a log and their levels. Levels keep the names that they have by default: no level is
named anew while the program runs.
-/

namespace Flipbook.Log

structure Level where
  rank : Int
deriving DecidableEq

namespace Level

def unset : Level := ⟨0⟩

def debug : Level := ⟨10⟩

def info : Level := ⟨20⟩

def warning : Level := ⟨30⟩

def error : Level := ⟨40⟩

def critical : Level := ⟨50⟩

def name (level : Level) : String :=
  if level = unset then "NOTSET"
  else if level = debug then "DEBUG"
  else if level = info then "INFO"
  else if level = warning then "WARNING"
  else if level = error then "ERROR"
  else if level = critical then "CRITICAL"
  else "Level " ++ toString level.rank

def names : List String := ["NOTSET", "DEBUG", "INFO", "WARNING", "ERROR", "CRITICAL"]

theorem name_cases (level : Level) :
    level.name ∈ names ∨ level.name = "Level " ++ toString level.rank := by
  by_cases named : level ∈ [unset, debug, info, warning, error, critical]
  · left
    simp only [List.mem_cons, List.not_mem_nil, or_false] at named
    rcases named with rfl | rfl | rfl | rfl | rfl | rfl <;> decide
  · right
    simp only [List.mem_cons, List.not_mem_nil, or_false, not_or] at named
    simp [name, named]

def paddedName (level : Level) : String :=
  level.name ++ String.ofList (List.replicate (8 - level.name.length) ' ')

end Level

structure Record where
  logger : String
  level : Level
  message : String
deriving DecidableEq

/-- A record with the place and the time of its writing. `elapsed` counts milliseconds since the
start of the program. `attachments` are the texts of an exception and of a stack that the record may
carry. -/
structure Event where
  record : Record
  line : Int := 1
  moment : Moment := { seconds := 0 }
  elapsed : Binary64 := .ofInt 0
  attachments : List String := []

end Flipbook.Log
