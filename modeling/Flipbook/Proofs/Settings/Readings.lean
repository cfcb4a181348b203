import Flipbook.Proofs.Report
import Flipbook.Settings.Validation

/-!
What is read of settings, and the calls that change them. A call changes the values under a few
keys only, and on these keys depends all that is read.
-/

namespace Flipbook.Settings

def keys : List String :=
  ["app/version", "app/first_run", "atlas/default_atlas_id", "atlas/max_workers",
    "atlas/evict_failed_builds", "atlas/numeric_frame_order", "atlas/load_timeout",
    "logging/console_enabled", "logging/console_level", "logging/console_use_colors",
    "logging/file_enabled"]

structure Readings where
  defaultAtlasId : Except Fault String
  maxWorkers : Except Fault Int
  evictFailedBuilds : Bool
  numericFrameOrder : Bool
  loadTimeout : Except Fault Binary64
  consoleLogging : Bool
  consoleLogLevel : Except Fault String
  consoleUseColors : Bool
  fileLogging : Bool
  version : Except Fault String
  isFirstRun : Bool
  file : String

variable {settings next one other : Settings} {key : String} {value : Value}

@[simp] theorem file_put (settings : Settings) (key : String) (value : Value) :
    (settings.put key value).file = settings.file := rfl

theorem value?_put (settings : Settings) (key other : String) (value : Value) :
    (settings.put key value).value? other =
      if key = other then some value else settings.value? other := by
  by_cases same : key = other
  · rw [if_pos same, ← same]
    exact Keyed.lookup?_set_self ..
  · rw [if_neg same]
    refine Keyed.lookup?_set_of_ne ?_ _ _
    intro qualified
    exact same ((String.append_right_inj _).mp qualified)

inductive Writes (settings : Settings) : Settings → Prop
  | none (file : String) : Writes settings { settings with file }
  | put {next : Settings} (before : Writes settings next) (key : String) (known : key ∈ keys)
      (value : Value) : Writes settings (next.put key value)

theorem Writes.refl (settings : Settings) : Writes settings settings := .none settings.file

theorem Writes.single (settings : Settings) (known : key ∈ keys) (value : Value) :
    Writes settings (settings.put key value) :=
  (Writes.refl settings).put key known value

theorem Writes.begin (before : Writes settings next) : Writes settings next.begin :=
  (before.put _ (by decide) _).put _ (by decide) _

theorem eq_of_refused {α : Type} {current : Except Fault α} {source : String}
    {message : α → String}
    (told : (do
      let known ← Report.ofExcept current
      settings.refuse source (message known)).outcome = .ok next) : next = settings := by
  obtain ⟨known, -, told⟩ := Report.exists_of_bind told
  exact (Except.ok.inj told).symm

theorem setDefaultAtlasId_cases (settings : Settings) (value : Value) :
    (value.isTruthy = true ∧ settings.setDefaultAtlasId value =
        .ok (settings.put "atlas/default_atlas_id" value)) ∨
      (value.isTruthy = false ∧
        ∀ next, (settings.setDefaultAtlasId value).outcome = .ok next → next = settings) := by
  unfold setDefaultAtlasId
  cases truthy : value.isTruthy with
  | true => exact .inl ⟨rfl, rfl⟩
  | false => exact .inr ⟨rfl, fun next told => (Except.ok.inj told).symm⟩

variable [Limits]

def readings (settings : Settings) : Readings where
  defaultAtlasId := settings.defaultAtlasId
  maxWorkers := settings.maxWorkers
  evictFailedBuilds := settings.evictFailedBuilds
  numericFrameOrder := settings.numericFrameOrder
  loadTimeout := settings.loadTimeout
  consoleLogging := settings.consoleLogging
  consoleLogLevel := settings.consoleLogLevel
  consoleUseColors := settings.consoleUseColors
  fileLogging := settings.fileLogging
  version := settings.version
  isFirstRun := settings.isFirstRun
  file := settings.file

/-- A call of one who holds settings. Values may be of any kind. -/
inductive Call
  | openProfile (file : String)
  | setDefaultAtlasId (value : Value)
  | setMaxWorkers (value : Value)
  | setEvictFailedBuilds (value : Value)
  | setNumericFrameOrder (value : Value)
  | setLoadTimeout (value : Value)
  | setConsoleLogging (value : Value)
  | setConsoleLogLevel (value : Value)
  | setConsoleUseColors (value : Value)
  | setFileLogging (value : Value)
  | completeFirstRun

def call (settings : Settings) : Call → Report Settings
  | .openProfile file => .ofExcept (openProfile settings.store settings.profile file)
  | .setDefaultAtlasId value => settings.setDefaultAtlasId value
  | .setMaxWorkers value => settings.setMaxWorkers value
  | .setEvictFailedBuilds value => .ok (settings.setEvictFailedBuilds value)
  | .setNumericFrameOrder value => .ok (settings.setNumericFrameOrder value)
  | .setLoadTimeout value => settings.setLoadTimeout value
  | .setConsoleLogging value => .ok (settings.setConsoleLogging value)
  | .setConsoleLogLevel value => settings.setConsoleLogLevel value
  | .setConsoleUseColors value => .ok (settings.setConsoleUseColors value)
  | .setFileLogging value => .ok (settings.setFileLogging value)
  | .completeFirstRun => .ok settings.completeFirstRun

def after (settings : Settings) (call : Call) : Settings :=
  match (settings.call call).outcome with
  | .ok next => next
  | .error _ => settings

def afterAll (settings : Settings) (calls : List Call) : Settings := calls.foldl after settings

theorem readings_congr (file : one.file = other.file)
    (same : ∀ key ∈ keys, one.value? key = other.value? key) : one.readings = other.readings := by
  simp only [keys, List.forall_mem_cons] at same
  simp only [readings, defaultAtlasId, maxWorkers, evictFailedBuilds, numericFrameOrder,
    loadTimeout, consoleLogging, consoleLogLevel, consoleUseColors, fileLogging, version,
    isFirstRun, switch, textOr, readOr, same, file]

theorem validate_congr (same : one.readings = other.readings) :
    one.validate = other.validate := by
  simp only [readings, Readings.mk.injEq] at same
  simp only [validate, silenceWarnings, same]

theorem validate_eq_ok_iff {findings : Findings} : settings.validate = .ok findings ↔
    ∃ workers timeout level, settings.maxWorkers = .ok workers ∧
      settings.loadTimeout = .ok timeout ∧ settings.consoleLogLevel = .ok level ∧
        findings =
          { errors := workersErrors workers ++ timeoutErrors timeout ++ levelErrors level
            warnings := workersWarnings workers ++ timeoutWarnings timeout ++
              settings.silenceWarnings } := by
  constructor
  · intro checked
    obtain ⟨workers, counted, checked⟩ := Fault.bind_eq_ok_iff.mp checked
    obtain ⟨timeout, timed, checked⟩ := Fault.bind_eq_ok_iff.mp checked
    obtain ⟨level, known, found⟩ := Fault.bind_eq_ok_iff.mp checked
    exact ⟨workers, timeout, level, counted, timed, known, (Except.ok.inj found).symm⟩
  · rintro ⟨workers, timeout, level, counted, timed, known, rfl⟩
    rw [validate, counted, timed, known]
    rfl

theorem sound_of_valid {findings : Findings} (checked : settings.validate = .ok findings)
    (valid : findings.isValid = true) :
    (∃ workers, settings.maxWorkers = .ok workers ∧ 0 < workers) ∧
      ∃ level, settings.consoleLogLevel = .ok level ∧ Text.uppercase level ∈ validLevels := by
  obtain ⟨workers, timeout, level, counted, -, known, rfl⟩ := validate_eq_ok_iff.mp checked
  rw [Findings.isValid, List.isEmpty_iff] at valid
  obtain ⟨early, levels⟩ := List.append_eq_nil_iff.mp valid
  obtain ⟨few, -⟩ := List.append_eq_nil_iff.mp early
  have positive : 0 < workers := by simpa [workersErrors] using few
  have listed : Text.uppercase level ∈ validLevels := by simpa [levelErrors] using levels
  exact ⟨⟨workers, counted, positive⟩, level, known, listed⟩

theorem openProfile_cases {store : Store} {profile file : String}
    (opened : openProfile store profile file = .ok next) :
    next = { store, profile, file } ∨ next = begin { store, profile, file } := by
  unfold openProfile at opened
  dsimp only at opened
  split at opened
  next stored _ =>
      cases written : stored.written with
      | error fault =>
          rw [written] at opened
          contradiction
      | ok text =>
          rw [written] at opened
          have given := Except.ok.inj opened
          by_cases empty : text = ""
          · rw [if_pos empty] at given
            exact .inr given.symm
          · rw [if_neg empty] at given
            exact .inl given.symm
  next => exact .inr (Except.ok.inj opened).symm

theorem setMaxWorkers_cases (settings : Settings) (value : Value) :
    ((∃ number, value.number? = some number ∧ number.isAbove (.whole 0) = true) ∧
        settings.setMaxWorkers value = .ok (settings.put "atlas/max_workers" value)) ∨
      ((∀ number, value.number? = some number → number.isAbove (.whole 0) = false) ∧
        ∀ next, (settings.setMaxWorkers value).outcome = .ok next → next = settings) := by
  unfold setMaxWorkers
  cases known : value.number? with
  | none => exact .inr ⟨nofun, nofun⟩
  | some number =>
      dsimp only
      cases above : number.isAbove (.whole 0) with
      | true => exact .inl ⟨⟨number, rfl, above⟩, rfl⟩
      | false =>
          refine .inr ⟨fun other same => Option.some.inj same ▸ above, fun next told => ?_⟩
          rw [if_neg Bool.false_ne_true] at told
          obtain ⟨refused, -, told⟩ := Report.exists_of_bind told
          exact eq_of_refused told

theorem setLoadTimeout_cases (settings : Settings) (value : Value) :
    ((∃ number, value.number? = some number ∧ number.isAtLeast (.whole 0) = true) ∧
        settings.setLoadTimeout value = .ok (settings.put "atlas/load_timeout" value)) ∨
      ((∀ number, value.number? = some number → number.isAtLeast (.whole 0) = false) ∧
        ∀ next, (settings.setLoadTimeout value).outcome = .ok next → next = settings) := by
  unfold setLoadTimeout
  cases known : value.number? with
  | none => exact .inr ⟨nofun, nofun⟩
  | some number =>
      dsimp only
      cases least : number.isAtLeast (.whole 0) with
      | true => exact .inl ⟨⟨number, rfl, least⟩, rfl⟩
      | false =>
          refine .inr ⟨fun other same => Option.some.inj same ▸ least, fun next told => ?_⟩
          rw [if_neg Bool.false_ne_true] at told
          obtain ⟨refused, -, told⟩ := Report.exists_of_bind told
          exact eq_of_refused told

theorem setConsoleLogLevel_cases (settings : Settings) (value : Value) :
    (∃ text, value = .text text ∧ Text.uppercase text ∈ validLevels ∧
        settings.setConsoleLogLevel value =
          .ok (settings.put "logging/console_level" (.text (Text.uppercase text)))) ∨
      ((∀ text, value = .text text → Text.uppercase text ∉ validLevels) ∧
        ∀ next, (settings.setConsoleLogLevel value).outcome = .ok next → next = settings) := by
  unfold setConsoleLogLevel
  split
  next text =>
      by_cases valid : Text.uppercase text ∈ validLevels
      · exact .inl ⟨text, rfl, valid, if_pos valid⟩
      · refine .inr ⟨fun other same => Value.text.inj same ▸ valid, fun next told => ?_⟩
        rw [if_neg valid] at told
        exact eq_of_refused told
  next => exact .inr ⟨nofun, fun next told => eq_of_refused told⟩
  next different _ => exact .inr ⟨fun text same => absurd same (different text), nofun⟩

theorem writes_of_call {call : Call} (succeeded : (settings.call call).outcome = .ok next) :
    Writes settings next := by
  have stored : ∀ key ∈ keys, ∀ value, Report.ok (settings.put key value) = settings.call call →
      Writes settings next := by
    intro key known value same
    rw [← same] at succeeded
    exact Except.ok.inj succeeded ▸ .single settings known value
  cases call with
  | openProfile file =>
      rcases openProfile_cases succeeded with rfl | rfl
      · exact .none file
      · exact (Writes.none file).begin
  | setDefaultAtlasId value =>
      rcases settings.setDefaultAtlasId_cases value with ⟨-, taken⟩ | ⟨-, refused⟩
      · exact stored _ (by decide) value taken.symm
      · exact refused next succeeded ▸ .refl settings
  | setMaxWorkers value =>
      rcases settings.setMaxWorkers_cases value with ⟨-, taken⟩ | ⟨-, refused⟩
      · exact stored _ (by decide) value taken.symm
      · exact refused next succeeded ▸ .refl settings
  | setLoadTimeout value =>
      rcases settings.setLoadTimeout_cases value with ⟨-, taken⟩ | ⟨-, refused⟩
      · exact stored _ (by decide) value taken.symm
      · exact refused next succeeded ▸ .refl settings
  | setConsoleLogLevel value =>
      rcases settings.setConsoleLogLevel_cases value with ⟨text, -, -, taken⟩ | ⟨-, refused⟩
      · exact stored _ (by decide) (.text (Text.uppercase text)) taken.symm
      · exact refused next succeeded ▸ .refl settings
  | setEvictFailedBuilds value => exact stored _ (by decide) value rfl
  | setNumericFrameOrder value => exact stored _ (by decide) value rfl
  | setConsoleLogging value => exact stored _ (by decide) value rfl
  | setConsoleUseColors value => exact stored _ (by decide) value rfl
  | setFileLogging value => exact stored _ (by decide) value rfl
  | completeFirstRun => exact stored _ (by decide) (.bool false) rfl

theorem writes_after (settings : Settings) (call : Call) :
    Writes settings (settings.after call) := by
  unfold after
  split
  next next succeeded => exact writes_of_call succeeded
  next => exact .refl settings

end Flipbook.Settings
