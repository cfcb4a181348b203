import Flipbook.Proofs.AtlasService.Registry
import Flipbook.Proofs.Binary64.Sign
import Flipbook.Proofs.Settings.Readings
import Flipbook.Proofs.Value

/-!
Setters that get values of the kinds that they are declared for. Whatever they are given in
whatever order, the settings pass their check, and each setter changes what it is for and no more.
-/

namespace Flipbook.Settings

inductive Assignment
  | defaultAtlasId (id : String)
  | maxWorkers (count : Int)
  | evictFailedBuilds (on : Bool)
  | numericFrameOrder (on : Bool)
  | loadTimeout (seconds : Int)
  | consoleLogging (on : Bool)
  | consoleLogLevel (level : String)
  | consoleUseColors (on : Bool)
  | fileLogging (on : Bool)

namespace Assignment

def call : Assignment → Call
  | defaultAtlasId id => .setDefaultAtlasId (.text id)
  | maxWorkers count => .setMaxWorkers (.int count)
  | evictFailedBuilds on => .setEvictFailedBuilds (.bool on)
  | numericFrameOrder on => .setNumericFrameOrder (.bool on)
  | loadTimeout seconds => .setLoadTimeout (.int seconds)
  | consoleLogging on => .setConsoleLogging (.bool on)
  | consoleLogLevel level => .setConsoleLogLevel (.text level)
  | consoleUseColors on => .setConsoleUseColors (.bool on)
  | fileLogging on => .setFileLogging (.bool on)

def IsAccepted : Assignment → Prop
  | defaultAtlasId id => id ≠ ""
  | maxWorkers count => 0 < count
  | loadTimeout seconds => 0 ≤ seconds
  | consoleLogLevel level => Text.uppercase level ∈ validLevels
  | _ => True

instance (assignment : Assignment) : Decidable assignment.IsAccepted := by
  cases assignment <;> unfold IsAccepted <;> infer_instance

/-- What settings say after an assignment that was accepted. A number with too many digits to be
read back is as good as none. -/
def assign (assignment : Assignment) (readings : Readings) : Readings :=
  match assignment with
  | defaultAtlasId id => { readings with defaultAtlasId := .ok id }
  | maxWorkers count =>
    { readings with maxWorkers := .ok (if Text.isWritable count then count else fallbackWorkers) }
  | evictFailedBuilds on => { readings with evictFailedBuilds := on }
  | numericFrameOrder on => { readings with numericFrameOrder := on }
  | loadTimeout seconds =>
    { readings with
      loadTimeout := .ok
        (if Text.isWritable seconds then (Binary64.read? (toString seconds)).getD fallbackTimeout
        else fallbackTimeout) }
  | consoleLogging on => { readings with consoleLogging := on }
  | consoleLogLevel level => { readings with consoleLogLevel := .ok (Text.uppercase level) }
  | consoleUseColors on => { readings with consoleUseColors := on }
  | fileLogging on => { readings with fileLogging := on }

def key : Assignment → String
  | defaultAtlasId _ => "atlas/default_atlas_id"
  | maxWorkers _ => "atlas/max_workers"
  | evictFailedBuilds _ => "atlas/evict_failed_builds"
  | numericFrameOrder _ => "atlas/numeric_frame_order"
  | loadTimeout _ => "atlas/load_timeout"
  | consoleLogging _ => "logging/console_enabled"
  | consoleLogLevel _ => "logging/console_level"
  | consoleUseColors _ => "logging/console_use_colors"
  | fileLogging _ => "logging/file_enabled"

def stored : Assignment → Value
  | defaultAtlasId id => .text id
  | maxWorkers number | loadTimeout number => .int number
  | consoleLogLevel level => .text (Text.uppercase level)
  | evictFailedBuilds on | numericFrameOrder on | consoleLogging on | consoleUseColors on
  | fileLogging on => .bool on

end Assignment

variable {settings : Settings} {assignment : Assignment} {readings : Readings}

theorem isAbove_zero_iff {count : Int} :
    (Number.whole count).isAbove (.whole 0) = true ↔ 0 < count := by
  simp [Number.isAbove, Number.compare, Std.compare_eq_gt]

theorem isAtLeast_zero_iff {seconds : Int} :
    (Number.whole seconds).isAtLeast (.whole 0) = true ↔ 0 ≤ seconds := by
  simp only [Number.isAtLeast, Number.compare, Bool.or_eq_true, decide_eq_true_eq,
    Option.some.injEq, Std.compare_eq_gt, Std.compare_eq_iff_eq]
  omega

structure Readings.Sound (readings : Readings) : Prop where
  defaultAtlasId : ∃ id, readings.defaultAtlasId = .ok id
  maxWorkers : ∃ workers, readings.maxWorkers = .ok workers ∧ 0 < workers
  loadTimeout : ∃ timeout, readings.loadTimeout = .ok timeout ∧ timeout.compareInt 0 ≠ some .lt
  consoleLogLevel : ∃ level, readings.consoleLogLevel = .ok level ∧
    Text.uppercase level ∈ validLevels

theorem fallbackTimeout_not_below : fallbackTimeout.compareInt 0 ≠ some .lt := by
  unfold fallbackTimeout Binary64.ofInt
  exact (Binary64.Unsigned.round 30 1).not_below

theorem uppercase_validLevels {level : String} (valid : level ∈ validLevels) :
    Text.uppercase level ∈ validLevels := by
  have levels : ∀ level ∈ validLevels, Text.uppercase level = level := by decide +kernel
  exact (levels level valid).symm ▸ valid

theorem read_natCast_not_below (seconds : Nat) :
    ((Binary64.read? (toString (seconds : Int))).getD fallbackTimeout).compareInt 0 ≠
      some .lt := by
  have digits : toString (seconds : Int) = String.ofList (Nat.toDigits 10 seconds) := by
    rw [← Nat.repr_eq_ofList_toDigits]
    rfl
  rw [digits]
  cases read : Binary64.read? (String.ofList (Nat.toDigits 10 seconds)) with
  | none =>
      rw [Option.getD_none]
      exact fallbackTimeout_not_below
  | some number =>
      rw [Option.getD_some]
      exact (Binary64.Unsigned.of_read? (fun c => Text.isAsciiDigit_of_mem_toDigits) read).not_below

theorem Readings.Sound.assign (sound : readings.Sound) (accepted : assignment.IsAccepted) :
    (assignment.assign readings).Sound := by
  obtain ⟨id, workers, timeout, level⟩ := sound
  cases assignment with dsimp only [Assignment.assign]
  | defaultAtlasId name => exact ⟨⟨name, rfl⟩, workers, timeout, level⟩
  | maxWorkers count =>
      refine ⟨id, ⟨_, rfl, ?_⟩, timeout, level⟩
      split
      · exact accepted
      · decide
  | loadTimeout seconds =>
      obtain ⟨number, rfl⟩ := Int.eq_ofNat_of_zero_le accepted
      refine ⟨id, workers, ⟨_, rfl, ?_⟩, level⟩
      split
      · exact read_natCast_not_below number
      · exact fallbackTimeout_not_below
  | consoleLogLevel name =>
      exact ⟨id, workers, timeout, Text.uppercase name, rfl, uppercase_validLevels accepted⟩
  | _ => exact ⟨id, workers, timeout, level⟩

theorem outcome_warnAll (warnings : List String) :
    (AtlasService.warnAll warnings).outcome = .ok () := by
  induction warnings with
  | nil => rfl
  | cons warning rest ih => exact ih

variable [Limits]

theorem call_cases (settings : Settings) (assignment : Assignment) :
    (assignment.IsAccepted ∧ settings.call assignment.call =
        .ok (settings.put assignment.key assignment.stored)) ∨
      (¬ assignment.IsAccepted ∧ settings.after assignment.call = settings) := by
  have kept : (∀ next, (settings.call assignment.call).outcome = .ok next → next = settings) →
      settings.after assignment.call = settings := by
    intro refused
    unfold after
    split
    next next told => exact refused next told
    next => rfl
  cases assignment with
  | defaultAtlasId id =>
      refine (settings.setDefaultAtlasId_cases (.text id)).imp ?_ ?_
      · rintro ⟨filled, taken⟩
        exact ⟨bne_iff_ne.mp filled, taken⟩
      · rintro ⟨empty, refused⟩
        exact ⟨fun filled => Bool.false_ne_true (empty.symm.trans (bne_iff_ne.mpr filled)),
          kept refused⟩
  | maxWorkers count =>
      refine (settings.setMaxWorkers_cases (.int count)).imp ?_ ?_
      · rintro ⟨⟨number, whole, above⟩, taken⟩
        obtain rfl := Option.some.inj whole
        exact ⟨isAbove_zero_iff.mp above, taken⟩
      · rintro ⟨least, refused⟩
        refine ⟨fun positive => ?_, kept refused⟩
        exact Bool.false_ne_true ((least _ rfl).symm.trans (isAbove_zero_iff.mpr positive))
  | loadTimeout seconds =>
      refine (settings.setLoadTimeout_cases (.int seconds)).imp ?_ ?_
      · rintro ⟨⟨number, whole, least⟩, taken⟩
        obtain rfl := Option.some.inj whole
        exact ⟨isAtLeast_zero_iff.mp least, taken⟩
      · rintro ⟨below, refused⟩
        refine ⟨fun natural => ?_, kept refused⟩
        exact Bool.false_ne_true ((below _ rfl).symm.trans (isAtLeast_zero_iff.mpr natural))
  | consoleLogLevel level =>
      refine (settings.setConsoleLogLevel_cases (.text level)).imp ?_ ?_
      · rintro ⟨text, same, valid, taken⟩
        obtain rfl := Value.text.inj same
        exact ⟨valid, taken⟩
      · rintro ⟨invalid, refused⟩
        exact ⟨invalid level rfl, kept refused⟩
  | _ => exact .inl ⟨trivial, rfl⟩

theorem readOr_put {α : Type} (settings : Settings) (key : String) (number : Int) (default : α)
    (read? : String → Option α) :
    (settings.put key (.int number)).readOr key default read? = .ok
      (if Text.isWritable number then (read? (toString number)).getD default else default) := by
  simp only [readOr, value?_put, if_true, Value.written_int]
  by_cases fits : Text.isWritable number = true
  · rw [if_pos fits, if_pos fits]
  · rw [if_neg fits, if_neg fits]

theorem maxWorkers_put (settings : Settings) {count : Int} (positive : 0 < count) :
    (settings.put "atlas/max_workers" (.int count)).maxWorkers = .ok
      (if Text.isWritable count then count else fallbackWorkers) := by
  obtain ⟨number, rfl⟩ := Int.eq_ofNat_of_zero_le (Int.le_of_lt positive)
  rw [maxWorkers, readOr_put, Value.integerOfText_natCast]
  by_cases fits : Text.isWritable number = true
  · rw [if_pos fits, if_pos fits, if_pos fits]
    rfl
  · rw [if_neg fits, if_neg fits]

theorem loadTimeout_put (settings : Settings) (seconds : Int) :
    (settings.put "atlas/load_timeout" (.int seconds)).loadTimeout = .ok
      (if Text.isWritable seconds then (Binary64.read? (toString seconds)).getD fallbackTimeout
      else fallbackTimeout) :=
  settings.readOr_put ..

theorem defaultAtlasId_put (settings : Settings) {id : String} (filled : id ≠ "") :
    (settings.put "atlas/default_atlas_id" (.text id)).defaultAtlasId = .ok id := by
  simp only [defaultAtlasId, value?_put, if_true, Value.isTruthy, bne_iff_ne.mpr filled,
    Value.written_text]

theorem readings_put (accepted : assignment.IsAccepted) (settings : Settings) :
    (settings.put assignment.key assignment.stored).readings =
      assignment.assign settings.readings := by
  cases assignment with
  | defaultAtlasId id =>
      simp only [readings, Assignment.assign, Assignment.key, Assignment.stored,
        settings.defaultAtlasId_put accepted, maxWorkers, evictFailedBuilds, numericFrameOrder,
        loadTimeout, consoleLogging, consoleLogLevel, consoleUseColors, fileLogging, version,
        isFirstRun, switch, textOr, readOr, value?_put, String.reduceEq, reduceIte, file_put]
  | maxWorkers count =>
      simp only [readings, Assignment.assign, Assignment.key, Assignment.stored,
        settings.maxWorkers_put accepted, defaultAtlasId, evictFailedBuilds, numericFrameOrder,
        loadTimeout, consoleLogging, consoleLogLevel, consoleUseColors, fileLogging, version,
        isFirstRun, switch, textOr, readOr, value?_put, String.reduceEq, reduceIte, file_put]
  | loadTimeout seconds =>
      simp only [readings, Assignment.assign, Assignment.key, Assignment.stored,
        settings.loadTimeout_put seconds, defaultAtlasId, maxWorkers, evictFailedBuilds,
        numericFrameOrder, consoleLogging, consoleLogLevel, consoleUseColors, fileLogging, version,
        isFirstRun, switch, textOr, readOr, value?_put, String.reduceEq, reduceIte, file_put]
  | _ =>
      simp only [readings, Assignment.assign, Assignment.key, Assignment.stored, defaultAtlasId,
        maxWorkers, evictFailedBuilds, numericFrameOrder, loadTimeout, consoleLogging,
        consoleLogLevel, consoleUseColors, fileLogging, version, isFirstRun, switch, textOr, readOr,
        value?_put, String.reduceEq, reduceIte, file_put, Value.written_text]

theorem Readings.Sound.after (sound : settings.readings.Sound) (assignment : Assignment) :
    (settings.after assignment.call).readings.Sound := by
  rcases settings.call_cases assignment with ⟨accepted, taken⟩ | ⟨-, same⟩
  · simp only [Settings.after, taken, Report.ok]
    rw [readings_put accepted]
    exact sound.assign accepted
  · exact same.symm ▸ sound

theorem Readings.Sound.afterAll (sound : settings.readings.Sound) (assignments : List Assignment) :
    (settings.afterAll (assignments.map Assignment.call)).readings.Sound := by
  induction assignments generalizing settings with
  | nil => exact sound
  | cons assignment rest ih => exact ih (sound.after assignment)

theorem loadTimeout_begin (profile file : String) :
    (Settings.begin { store := [], profile, file }).loadTimeout = .ok fallbackTimeout := by
  have missing : ({ store := [], profile, file } : Settings).value? "atlas/load_timeout" = none :=
    rfl
  simp only [Settings.begin, Settings.loadTimeout, readOr, value?_put, String.reduceEq, reduceIte,
    missing]

theorem Readings.Sound.begin (profile file : String) :
    (Settings.begin { store := [], profile, file }).readings.Sound := by
  have missing : ∀ key, ({ store := [], profile, file } : Settings).value? key = none :=
    fun key => rfl
  constructor
  · exact ⟨fallbackAtlasId, by simp [Settings.readings, Settings.begin, Settings.defaultAtlasId,
      value?_put, missing]⟩
  · exact ⟨fallbackWorkers, by simp [Settings.readings, Settings.begin, Settings.maxWorkers, readOr,
      value?_put, missing], by decide⟩
  · exact ⟨fallbackTimeout, loadTimeout_begin profile file, fallbackTimeout_not_below⟩
  · refine ⟨"INFO", ?_, by decide +kernel⟩
    simp [Settings.readings, Settings.begin, Settings.consoleLogLevel, textOr, value?_put, missing]

theorem Readings.Sound.validate (sound : settings.readings.Sound) :
    ∃ findings, settings.validate = .ok findings ∧ findings.errors = [] := by
  obtain ⟨workers, counted, positive⟩ := sound.maxWorkers
  obtain ⟨timeout, timed, natural⟩ := sound.loadTimeout
  obtain ⟨level, known, valid⟩ := sound.consoleLogLevel
  have few : workersErrors workers = [] := if_neg (Int.not_le.mpr positive)
  have early : timeoutErrors timeout = [] := if_neg natural
  have levels : levelErrors level = [] := if_pos valid
  exact ⟨_, validate_eq_ok_iff.mpr ⟨workers, timeout, level, counted, timed, known, rfl⟩,
    by simp [few, early, levels]⟩

/-- Settings with which an application can go on, and whose setters do what they are for. -/
structure Governed (settings : Settings) : Prop where
  passes : ∃ findings, settings.validate = .ok findings ∧ findings.errors = []
  serves : ∃ service, (AtlasService.ofSettings settings).outcome = .ok service ∧
    ∀ steps last, AtlasService.Shared.run? { service } steps = some last →
      last.service.closed = false → ∀ id, ∃ number, (last.service.atlas id).2.outcome = .ok number
  refuses : ∀ assignment : Assignment, ¬ assignment.IsAccepted →
    settings.after assignment.call = settings
  assigns : ∀ assignment : Assignment, assignment.IsAccepted →
    ∃ next, (settings.call assignment.call).outcome = .ok next ∧
      next.readings = assignment.assign settings.readings

theorem outcome_ofSettings_of_errors {findings : Findings}
    (checked : settings.validate = .ok findings) (listed : findings.errors ≠ []) :
    (AtlasService.ofSettings settings).outcome =
      .error (.configuration (String.intercalate "; " findings.errors)) := by
  have invalid : findings.isValid = false := List.isEmpty_eq_false_iff.mpr listed
  unfold AtlasService.ofSettings
  simp only [Report.outcome_bind, Report.ofExcept, checked, outcome_warnAll, Except.bind, invalid]
  rfl

theorem outcome_ofSettings_of_valid {findings : Findings}
    (checked : settings.validate = .ok findings) (valid : findings.errors = []) :
    ∃ workers timeout, settings.maxWorkers = .ok workers ∧ settings.loadTimeout = .ok timeout ∧
      (AtlasService.ofSettings settings).outcome = settings.defaultAtlasId.map fun defaultId =>
        { defaultId
          workers
          evictsFailed := settings.evictFailedBuilds
          order := if settings.numericFrameOrder then .byNumber else .byName
          timeout } := by
  have sound : findings.isValid = true := List.isEmpty_iff.mpr valid
  obtain ⟨workers, timeout, level, counted, timed, -⟩ := validate_eq_ok_iff.mp checked
  refine ⟨workers, timeout, counted, timed, ?_⟩
  unfold AtlasService.ofSettings
  simp only [Report.outcome_bind, Report.ofExcept, checked, outcome_warnAll, Except.bind, sound,
    if_true, counted, timed]
  cases settings.defaultAtlasId <;> rfl

theorem Readings.Sound.ofSettings (sound : settings.readings.Sound) :
    ∃ service, (AtlasService.ofSettings settings).outcome = .ok service ∧
      settings.loadTimeout = .ok service.timeout := by
  obtain ⟨findings, checked, errors⟩ := sound.validate
  obtain ⟨id, known⟩ := sound.defaultAtlasId
  have named : settings.defaultAtlasId = .ok id := known
  obtain ⟨workers, timeout, -, timed, made⟩ := outcome_ofSettings_of_valid checked errors
  rw [named] at made
  exact ⟨_, made, timed⟩

theorem Readings.Sound.governed (sound : settings.readings.Sound) : Governed settings where
  passes := sound.validate
  serves := by
    obtain ⟨service, made, -⟩ := sound.ofSettings
    have workers := (AtlasService.isNew_ofSettings made).2
    refine ⟨service, made, fun steps last ran opened id => ?_⟩
    refine AtlasService.atlas_answers opened ?_ id
    refine AtlasService.Shared.run?_invariant (0 < ·.service.workers) ?_ ran workers
    intro shared step next _ positive move
    exact move.settings_eq.2.1 ▸ positive
  refuses assignment refused := by
    rcases settings.call_cases assignment with ⟨accepted, -⟩ | ⟨-, same⟩
    · exact absurd accepted refused
    · exact same
  assigns assignment accepted := by
    rcases settings.call_cases assignment with ⟨-, taken⟩ | ⟨refused, -⟩
    · exact ⟨_, congrArg Report.outcome taken, readings_put accepted settings⟩
    · exact absurd accepted refused

theorem governed_afterAll (profile file : String) :
    ∃ opened, openProfile [] profile file = .ok opened ∧
      ∀ assignments : List Assignment,
        Governed (opened.afterAll (assignments.map Assignment.call)) :=
  ⟨_, rfl, fun assignments => ((Readings.Sound.begin profile file).afterAll assignments).governed⟩

end Flipbook.Settings
