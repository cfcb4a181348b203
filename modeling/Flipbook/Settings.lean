import Flipbook.Keyed
import Flipbook.Report
import Flipbook.Text.Uppercase
import Flipbook.Value.Written

/-!
Settings of one profile in a store that several profiles share. Every key of a profile begins with
the name of the profile and a slash. The store is a map from whole keys to values. It gives back
what was put under a key as it was put, and nothing but the profiles writes to it.
-/

namespace Flipbook

abbrev Store := List (String × Value)

structure Settings where
  store : Store
  profile : String := "default"
  file : String := "sprite_atlas/sprite_atlas"

namespace Settings

def qualify (profile key : String) : String := profile ++ "/" ++ key

def value? (settings : Settings) (key : String) : Option Value :=
  Keyed.lookup? (qualify settings.profile key) settings.store

def put (settings : Settings) (key : String) (value : Value) : Settings :=
  { settings with store := Keyed.set settings.store (qualify settings.profile key) value }

def isAffirmative (text : String) : Bool :=
  let lower := String.ofList (text.toList.map Char.toLower)
  lower == "true" || lower == "1" || lower == "yes"

def switch (settings : Settings) (key : String) (default : Bool) : Bool :=
  match settings.value? key with
  | none | some .none => default
  | some (.bool value) => value
  | some (.text value) => isAffirmative value
  | some value => value.isTruthy

variable [Limits]

def textOr (settings : Settings) (key default : String) : Except Fault String :=
  match settings.value? key with
  | none | some .none => .ok default
  | some value => value.written

/-- What is read from the text of a value. One without a text, or whose text reads as nothing,
counts as `default`, unless it is nested too deep. -/
def readOr {α : Type} (settings : Settings) (key : String) (default : α)
    (read? : String → Option α) : Except Fault α :=
  match settings.value? key with
  | none | some .none => .ok default
  | some value =>
    match value.written with
    | .ok text => .ok ((read? text).getD default)
    | .error .nestedTooDeep => .error .nestedTooDeep
    | .error _ => .ok default

def currentVersion : String := "1.0"

def begin (settings : Settings) : Settings :=
  (settings.put "app/version" (.text currentVersion)).put "app/first_run" (.bool true)

def openProfile (store : Store) (profile file : String) : Except Fault Settings :=
  let settings : Settings := { store, profile, file }
  match settings.value? "app/version" with
  | some value => do
    let version ← value.written
    pure (if version = "" then settings.begin else settings)
  | none => .ok settings.begin

def version (settings : Settings) : Except Fault String :=
  settings.textOr "app/version" currentVersion

def isFirstRun (settings : Settings) : Bool :=
  match settings.value? "app/first_run" with
  | none => true
  | some (.text value) => isAffirmative value
  | some value => value.isTruthy

def completeFirstRun (settings : Settings) : Settings :=
  settings.put "app/first_run" (.bool false)

end Settings

end Flipbook
