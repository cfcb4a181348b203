import Flipbook.CommandLine.Session
import Flipbook.Settings.Validation

/-!
What a session puts out. The log goes to the console and to its file, and never into the output, and
it can be set up with any settings that pass their check.
-/

namespace Flipbook.CommandLine.Session

variable {session ready : Session} {settings : Settings}

@[simp] theorem output_log (session : Session) (record : Log.Record) :
    (session.log record).output = session.output := by
  unfold log
  dsimp only
  split <;> split <;> rfl

@[simp] theorem output_foldl_log (session : Session) (records : List Log.Record) :
    (records.foldl log session).output = session.output := by
  induction records generalizing session with
  | nil => rfl
  | cons record rest ih => exact (ih _).trans (output_log session record)

@[simp] theorem output_logAll (session : Session) (notices : List Notice) :
    (session.logAll notices).output = session.output := by
  induction notices generalizing session with
  | nil => rfl
  | cons notice rest ih => exact (ih _).trans (output_log session notice.logged)

theorem output_openLog (opened : session.openLog = .ok ready) :
    ready.output = session.output := by
  unfold openLog at opened
  split at opened
  next => contradiction
  next => contradiction
  next => exact Except.ok.inj opened ▸ rfl

@[simp] theorem output_setUpFile (session : Session) (settings : Settings) :
    (session.setUpFile settings).output = session.output := by
  unfold setUpFile
  split
  next =>
      split
      next opened => exact output_openLog opened
      next => exact output_log ..
  next => rfl

theorem levelOf_of_valid {level : String} (valid : level ∈ Settings.validLevels) :
    ∃ found, Log.Console.levelOf level = .ok found := by
  simp only [Settings.validLevels, List.mem_cons, List.not_mem_nil, or_false] at valid
  rcases valid with rfl | rfl | rfl | rfl | rfl <;> exact ⟨_, rfl⟩

theorem exists_setUpConsole {level : String}
    (named : settings.consoleLogging = true →
      ∃ found, Log.Console.levelOf (Text.uppercase level) = .ok found) (session : Session) :
    ∃ ready, session.setUpConsole settings level = .ok ready ∧ ready.output = session.output := by
  unfold setUpConsole
  split
  next shown =>
      obtain ⟨found, known⟩ := named shown
      rw [known]
      exact ⟨_, rfl, rfl⟩
  next => exact ⟨session, rfl, rfl⟩

variable [Limits]

theorem exists_setUpLog {level : String} (known : settings.consoleLogLevel = .ok level)
    (named : settings.consoleLogging = true →
      ∃ found, Log.Console.levelOf (Text.uppercase level) = .ok found) (session : Session) :
    ∃ ready, session.setUpLog settings = .ok ready ∧ ready.output = session.output := by
  obtain ⟨console, shown, same⟩ := exists_setUpConsole named session
  unfold setUpLog
  rw [known]
  simp only [bind, Except.bind, shown]
  exact ⟨_, rfl, by simp [same]⟩

end Flipbook.CommandLine.Session
