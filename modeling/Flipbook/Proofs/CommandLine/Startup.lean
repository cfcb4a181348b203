import Flipbook.Proofs.CommandLine.Run

/-!
The start of a run, until there is a service. Errors among the settings end a run with a message
that lists them. A run stops without one at a value that cannot be written, at a level that is named
like something else in the log, at a definition of two dashes only, and at a number that is nested
too deep to be read.
-/

namespace Flipbook

def Log.Console.misnomers : List String := ["BASIC_FORMAT", "_STYLES"]

theorem Log.Console.levelOf_of_misnomer {name : String} (misnomer : name ∈ misnomers) :
    ∃ fault, levelOf name = .error fault := by
  simp only [misnomers, List.mem_cons, List.not_mem_nil, or_false] at misnomer
  rcases misnomer with rfl | rfl <;> exact ⟨_, rfl⟩

theorem Log.Console.exists_levelOf {name : String} (level : name ∉ misnomers) :
    ∃ found, levelOf name = .ok found := by
  simp only [misnomers, List.mem_cons, List.not_mem_nil, or_false, not_or] at level
  unfold levelOf
  rw [if_neg level.1, if_neg level.2]
  split_ifs <;> exact ⟨_, rfl⟩

namespace Settings

variable {settings : Settings} {fault : Fault} [Limits]

def IsUnwritten (settings : Settings) (key : String) (fault : Fault) : Prop :=
  ∃ value, settings.value? key = some value ∧ value.written = .error fault

def IsMisnamed (settings : Settings) : Prop :=
  settings.consoleLogging = true ∧ ∃ level, settings.consoleLogLevel = .ok level ∧
    Text.uppercase level ∈ Log.Console.misnomers

theorem textOr_eq_error_iff {key default : String} :
    settings.textOr key default = .error fault ↔ settings.IsUnwritten key fault := by
  have nothing : Value.none.written = .ok "None" := rfl
  unfold textOr IsUnwritten
  split
  next absent => simp [absent]
  next empty => simp [empty, nothing]
  next value stored present => simp [present]

theorem readOr_eq_error_iff {α : Type} {key : String} {default : α}
    {read? : String → Option α} : settings.readOr key default read? = .error fault ↔
      fault = .nestedTooDeep ∧ settings.IsUnwritten key .nestedTooDeep := by
  have nothing : Value.none.written = .ok "None" := rfl
  unfold readOr IsUnwritten
  split
  next absent => simp [absent]
  next empty => simp [empty, nothing]
  next value stored present =>
      split
      next text written => simp [present, written]
      next deep => simp [present, deep, eq_comm]
      next other shallow written =>
          have apart : other ≠ .nestedTooDeep := shallow
          simp [present, written, apart]

def IsTooDeep (settings : Settings) : Prop :=
  settings.IsUnwritten "atlas/max_workers" .nestedTooDeep ∨
    settings.IsUnwritten "atlas/load_timeout" .nestedTooDeep

theorem validate_cases {level : String} (known : settings.consoleLogLevel = .ok level) :
    (∃ findings, settings.validate = .ok findings) ∨
      settings.IsTooDeep ∧ settings.validate = .error .nestedTooDeep := by
  unfold validate
  cases counted : settings.maxWorkers with
  | error fault =>
      obtain ⟨rfl, deep⟩ := readOr_eq_error_iff.mp counted
      exact .inr ⟨.inl deep, rfl⟩
  | ok workers =>
      cases timed : settings.loadTimeout with
      | error fault =>
          obtain ⟨rfl, deep⟩ := readOr_eq_error_iff.mp timed
          exact .inr ⟨.inr deep, rfl⟩
      | ok timeout =>
          rw [known]
          exact .inl ⟨_, rfl⟩

theorem validate_of_isTooDeep (deep : settings.IsTooDeep) :
    settings.validate = .error .nestedTooDeep := by
  unfold validate
  rcases deep with deep | deep
  · have uncounted : settings.maxWorkers = .error .nestedTooDeep :=
      readOr_eq_error_iff.mpr ⟨rfl, deep⟩
    rw [uncounted]
    rfl
  · have untimed : settings.loadTimeout = .error .nestedTooDeep :=
      readOr_eq_error_iff.mpr ⟨rfl, deep⟩
    rw [untimed]
    cases counted : settings.maxWorkers with
    | error fault =>
        obtain ⟨rfl, -⟩ := readOr_eq_error_iff.mp counted
        rfl
    | ok workers => rfl

theorem defaultAtlasId_eq_error_iff :
    settings.defaultAtlasId = .error fault ↔
      settings.IsUnwritten "atlas/default_atlas_id" fault := by
  unfold defaultAtlasId IsUnwritten
  cases settings.value? "atlas/default_atlas_id" with
  | none => simp
  | some value =>
      cases truthy : value.isTruthy with
      | true => simp [truthy]
      | false =>
          obtain ⟨text, written⟩ := Value.exists_written_of_not_isTruthy truthy
          simp [truthy, written]

theorem openProfile_eq_error_iff {store : Store} {profile file : String} :
    openProfile store profile file = .error fault ↔
      IsUnwritten { store, profile, file } "app/version" fault := by
  unfold openProfile IsUnwritten
  dsimp only
  cases value? { store, profile, file } "app/version" with
  | none => simp
  | some value =>
      cases written : value.written <;> simp [written, bind, Except.bind, pure, Except.pure]

end Settings

namespace CommandLine

theorem definitionPairs_of_none {definitions : List (Option (String × String))}
    {pairs : List (String × String)} {rest : List (Option (String × String))}
    (given : definitions = pairs.map some ++ none :: rest) (index : Nat) :
    definitionPairs index definitions = .error (.entryLength (index + pairs.length) 0) := by
  subst given
  induction pairs generalizing index with
  | nil => rfl
  | cons pair others ih =>
      rw [List.map_cons, List.cons_append, definitionPairs, ih (index + 1), List.length_cons,
        Nat.add_assoc, Nat.add_comm 1]
      rfl

theorem exists_first_none {definitions : List (Option (String × String))}
    (member : none ∈ definitions) :
    ∃ (pairs : List (String × String)) (rest : List (Option (String × String))),
      definitions = pairs.map some ++ none :: rest := by
  induction definitions with
  | nil => contradiction
  | cons first others ih =>
      cases first with
      | none => exact ⟨[], others, rfl⟩
      | some pair =>
          obtain ⟨pairs, rest, rfl⟩ := ih (by simpa using member)
          exact ⟨pair :: pairs, rest, rfl⟩

@[simp] theorem service_handle (completion : Completion) :
    (handle completion).service = completion.service := by
  unfold handle
  split
  next => rfl
  next => split <;> rfl

variable [Limits]

def openedSettings (store : Store) (arguments : Arguments) : Except Fault Settings :=
  Settings.openProfile store "default"
    (arguments.settingsFile.getD "sprite_atlas/sprite_atlas")

/-- Whether a run opens these settings and sets up the log as they say. -/
structure Prepares (store : Store) (arguments : Arguments) (settings : Settings) : Prop where
  opened : openedSettings store arguments = .ok settings
  levelled : ∃ level, settings.consoleLogLevel = .ok level
  named : ¬ settings.IsMisnamed

/-- Whether a run comes to check these settings and finds this in them. -/
structure Checks (store : Store) (arguments : Arguments) (settings : Settings)
    (findings : Settings.Findings) : Prop extends Prepares store arguments settings where
  said : none ∉ arguments.definitions
  checked : settings.validate = .ok findings

/-- The faults that end a run before it has a service and that it does not tell the user. Each is
met only where none of those before it is. -/
inductive Stops (store : Store) (arguments : Arguments) : Fault → Prop
  | version {fault : Fault} (unwritten : Settings.IsUnwritten { store } "app/version" fault) :
      Stops store arguments fault
  | level {settings : Settings} {fault : Fault}
      (opened : openedSettings store arguments = .ok settings)
      (unwritten : settings.IsUnwritten "logging/console_level" fault) :
      Stops store arguments fault
  | name {settings : Settings} {level : String} {fault : Fault}
      (opened : openedSettings store arguments = .ok settings)
      (misnamed : settings.IsMisnamed) (known : settings.consoleLogLevel = .ok level)
      (refused : Log.Console.levelOf (Text.uppercase level) = .error fault) :
      Stops store arguments fault
  | definition {settings : Settings} {pairs : List (String × String)}
      {rest : List (Option (String × String))} (prepares : Prepares store arguments settings)
      (given : arguments.definitions = pairs.map some ++ none :: rest) :
      Stops store arguments (.entryLength pairs.length 0)
  | number {settings : Settings} (prepares : Prepares store arguments settings)
      (said : none ∉ arguments.definitions) (deep : settings.IsTooDeep) :
      Stops store arguments .nestedTooDeep
  | id {settings : Settings} {findings : Settings.Findings} {fault : Fault}
      (checks : Checks store arguments settings findings) (valid : findings.errors = [])
      (unwritten : settings.IsUnwritten "atlas/default_atlas_id" fault) :
      Stops store arguments fault

structure Refuses (session : Session) (findings : Settings.Findings) (completion : Completion) :
    Prop where
  ended : completion.outcome = .ok 1
  unserved : completion.service = none
  silent : completion.session.output = session.output
  told : ∃ logged, completion.session.errors =
    logged ++ ("error: " ++ String.intercalate "; " findings.errors) ++ "\n"

variable {loaders : Workspace → Loaders} {session : Session} {store : Store}
  {arguments : Arguments} {settings : Settings} {findings : Settings.Findings} {fault : Fault}
  {completion : Completion}

theorem withService_of_unmade
    (unmade : (AtlasService.ofSettings settings).outcome = .error fault)
    (loaders : Workspace → Loaders) (session : Session) (arguments : Arguments)
    (definitions : Page.Definitions) :
    (withService loaders session settings arguments definitions).outcome = .error fault ∧
      (withService loaders session settings arguments definitions).service = none ∧
        (withService loaders session settings arguments definitions).session.output =
          session.output := by
  unfold withService
  simp only [unmade, Session.output_logAll, and_self]

theorem isSome_service_withService {service : AtlasService}
    (made : (AtlasService.ofSettings settings).outcome = .ok service)
    (definitions : Page.Definitions) :
    (withService loaders session settings arguments definitions).service.isSome = true := by
  unfold withService
  simp only [made]
  rfl

theorem setUpLog_of_unwritten (unwritten : settings.IsUnwritten "logging/console_level" fault)
    (session : Session) : session.setUpLog settings = .error fault := by
  have unknown : settings.consoleLogLevel = .error fault :=
    Settings.textOr_eq_error_iff.mpr unwritten
  rw [Session.setUpLog, unknown]
  rfl

theorem setUpLog_of_misnamed {level : String} (misnamed : settings.IsMisnamed)
    (known : settings.consoleLogLevel = .ok level)
    (refused : Log.Console.levelOf (Text.uppercase level) = .error fault) (session : Session) :
    session.setUpLog settings = .error fault := by
  unfold Session.setUpLog Session.setUpConsole
  simp only [known, misnamed.1, if_true, refused, bind, Except.bind]

theorem prepare_eq (session : Session) (store : Store) (arguments : Arguments) :
    prepare session store arguments = openedSettings store arguments >>= fun settings =>
      session.setUpLog settings >>= fun ready => pure (settings, ready) := rfl

theorem prepare_of_unlogged (opened : openedSettings store arguments = .ok settings)
    (unlogged : session.setUpLog settings = .error fault) :
    prepare session store arguments = .error fault := by
  rw [prepare_eq, opened]
  simp only [bind, Except.bind, unlogged]

theorem execute_of_unprepared (unprepared : prepare session store arguments = .error fault) :
    (execute loaders session store arguments).outcome = .error fault ∧
      (execute loaders session store arguments).service = none := by
  unfold execute
  simp only [unprepared, and_self]

theorem Prepares.exists_ready (prepares : Prepares store arguments settings)
    (session : Session) : ∃ ready, prepare session store arguments = .ok (settings, ready) ∧
      ready.output = session.output := by
  obtain ⟨level, known⟩ := prepares.levelled
  have named : settings.consoleLogging = true →
      ∃ found, Log.Console.levelOf (Text.uppercase level) = .ok found := fun shown =>
    Log.Console.exists_levelOf fun misnomer => prepares.named ⟨shown, level, known, misnomer⟩
  obtain ⟨ready, logged, same⟩ := Session.exists_setUpLog known named session
  refine ⟨ready, ?_, same⟩
  rw [prepare_eq, prepares.opened]
  simp only [bind, Except.bind, logged]
  rfl

theorem Prepares.exists_execute_eq (prepares : Prepares store arguments settings)
    (said : none ∉ arguments.definitions) (loaders : Workspace → Loaders) (session : Session) :
    ∃ ready definitions, ready.output = session.output ∧
      execute loaders session store arguments =
        handle (withService loaders ready settings arguments definitions) := by
  obtain ⟨ready, prepared, same⟩ := prepares.exists_ready session
  rcases definitionPairs_cases arguments.definitions 0 with ⟨pairs, -, read⟩ | ⟨unsaid, -⟩
  · refine ⟨ready, Keyed.ofPairs pairs, same, ?_⟩
    simp only [execute, prepared, proceed, read]
  · exact absurd unsaid said

theorem Prepares.execute_of_unmade (prepares : Prepares store arguments settings)
    (said : none ∉ arguments.definitions)
    (unmade : (AtlasService.ofSettings settings).outcome = .error fault)
    (escapes : isHandled fault = false) (loaders : Workspace → Loaders) (session : Session) :
    (execute loaders session store arguments).outcome = .error fault ∧
      (execute loaders session store arguments).service = none := by
  obtain ⟨ready, definitions, -, same⟩ := prepares.exists_execute_eq said loaders session
  obtain ⟨failed, unserved, -⟩ :=
    withService_of_unmade unmade loaders ready arguments definitions
  rw [same, handle_of_escapes failed escapes]
  exact ⟨failed, unserved⟩

theorem Stops.execute_eq (stops : Stops store arguments fault) (loaders : Workspace → Loaders)
    (session : Session) : (execute loaders session store arguments).outcome = .error fault ∧
      (execute loaders session store arguments).service = none := by
  cases stops with
  | version unwritten =>
      have unopened : openedSettings store arguments = .error fault :=
        Settings.openProfile_eq_error_iff.mpr unwritten
      refine execute_of_unprepared ?_
      rw [prepare_eq, unopened]
      rfl
  | level opened unwritten =>
      exact execute_of_unprepared (prepare_of_unlogged opened (setUpLog_of_unwritten unwritten _))
  | name opened misnamed known refused =>
      exact execute_of_unprepared
        (prepare_of_unlogged opened (setUpLog_of_misnamed misnamed known refused _))
  | definition prepares given =>
      obtain ⟨ready, prepared, -⟩ := prepares.exists_ready session
      have failed := definitionPairs_of_none given 0
      simp only [execute, prepared, proceed, failed, Nat.zero_add, and_self]
  | number prepares said deep =>
      refine prepares.execute_of_unmade said ?_ rfl loaders session
      rw [AtlasService.ofSettings, Settings.validate_of_isTooDeep deep]
      rfl
  | id checks valid unwritten =>
      have unnamed := Settings.defaultAtlasId_eq_error_iff.mpr unwritten
      refine checks.execute_of_unmade checks.said ?_ ?_ loaders session
      · obtain ⟨_, _, -, -, made⟩ := Settings.outcome_ofSettings_of_valid checks.checked valid
        rw [made, unnamed]
        rfl
      · obtain ⟨value, -, failed⟩ := unwritten
        rcases Value.fault_of_unwritten failed with rfl | rfl <;> rfl

theorem Checks.refuses (checks : Checks store arguments settings findings)
    (listed : findings.errors ≠ []) (loaders : Workspace → Loaders) (session : Session) :
    Refuses session findings (execute loaders session store arguments) := by
  obtain ⟨ready, definitions, silent, same⟩ :=
    checks.exists_execute_eq checks.said loaders session
  have unmade := Settings.outcome_ofSettings_of_errors checks.checked listed
  obtain ⟨failed, unserved, quiet⟩ :=
    withService_of_unmade unmade loaders ready arguments definitions
  obtain ⟨ended, output, kept, told⟩ := handle_of_isHandled failed rfl
  rw [same]
  exact ⟨ended, kept.trans unserved, (output.trans quiet).trans silent, told⟩

theorem Checks.serves {id : String} (checks : Checks store arguments settings findings)
    (valid : findings.errors = []) (known : settings.defaultAtlasId = .ok id)
    (loaders : Workspace → Loaders) (session : Session) :
    (execute loaders session store arguments).service.isSome = true := by
  obtain ⟨ready, definitions, -, same⟩ := checks.exists_execute_eq checks.said loaders session
  obtain ⟨_, _, -, -, made⟩ := Settings.outcome_ofSettings_of_valid checks.checked valid
  rw [known] at made
  rw [same, service_handle]
  exact isSome_service_withService made definitions

theorem Prepares.cases (prepares : Prepares store arguments settings) :
    (∃ fault, Stops store arguments fault) ∨
      ∃ settings findings, Checks store arguments settings findings ∧
        (findings.errors ≠ [] ∨
          findings.errors = [] ∧ ∃ id, settings.defaultAtlasId = .ok id) := by
  by_cases unsaid : none ∈ arguments.definitions
  · obtain ⟨pairs, rest, given⟩ := exists_first_none unsaid
    exact .inl ⟨_, .definition prepares given⟩
  · obtain ⟨level, known⟩ := prepares.levelled
    rcases Settings.validate_cases known with ⟨findings, checked⟩ | ⟨deep, -⟩
    · have checks : Checks store arguments settings findings := ⟨prepares, unsaid, checked⟩
      by_cases valid : findings.errors = []
      · cases named : settings.defaultAtlasId with
        | error fault =>
            exact .inl ⟨fault, .id checks valid (Settings.defaultAtlasId_eq_error_iff.mp named)⟩
        | ok id => exact .inr ⟨settings, findings, checks, .inr ⟨valid, id, named⟩⟩
      · exact .inr ⟨settings, findings, checks, .inl valid⟩
    · exact .inl ⟨_, .number prepares unsaid deep⟩

theorem startup_cases (store : Store) (arguments : Arguments) :
    (∃ fault, Stops store arguments fault) ∨
      ∃ settings findings, Checks store arguments settings findings ∧
        (findings.errors ≠ [] ∨
          findings.errors = [] ∧ ∃ id, settings.defaultAtlasId = .ok id) := by
  cases opened : openedSettings store arguments with
  | error fault =>
      have unwritten := Settings.openProfile_eq_error_iff.mp opened
      exact .inl ⟨fault, .version unwritten⟩
  | ok settings =>
      cases known : settings.consoleLogLevel with
      | error fault =>
          exact .inl ⟨fault, .level opened (Settings.textOr_eq_error_iff.mp known)⟩
      | ok level =>
          by_cases misnamed : settings.IsMisnamed
          · obtain ⟨_, again, misnomer⟩ := misnamed.2
            obtain rfl := Except.ok.inj (known.symm.trans again)
            obtain ⟨fault, refused⟩ := Log.Console.levelOf_of_misnomer misnomer
            exact .inl ⟨fault, .name opened misnamed known refused⟩
          · exact Prepares.cases ⟨opened, ⟨level, known⟩, misnamed⟩

/-- How a run begins. It comes to have a service, or lists the errors among its settings, or stops
for a reason that it does not tell. -/
structure Begins (session : Session) (store : Store) (arguments : Arguments)
    (completion : Completion) : Prop where
  refuses_iff : ∀ settings findings, openedSettings store arguments = .ok settings →
    settings.validate = .ok findings → findings.errors ≠ [] →
      (Refuses session findings completion ↔
        ¬ settings.IsMisnamed ∧ none ∉ arguments.definitions)
  stops_iff : ∀ fault, completion.outcome = .error fault ∧ completion.service = none ↔
    Stops store arguments fault
  serves_iff : completion.service.isSome = true ↔
    ∃ settings findings id, Checks store arguments settings findings ∧
      findings.errors = [] ∧ settings.defaultAtlasId = .ok id

theorem begins (loaders : Workspace → Loaders) (session : Session) (store : Store)
    (arguments : Arguments) :
    Begins session store arguments (execute loaders session store arguments) where
  refuses_iff settings findings opened checked listed := by
    constructor
    · intro refuses
      rcases startup_cases store arguments with ⟨fault, stops⟩ | ⟨_, _, checks, -⟩
      · have ended := (stops.execute_eq loaders session).1
        rw [refuses.ended] at ended
        contradiction
      · obtain rfl := Except.ok.inj (opened.symm.trans checks.opened)
        exact ⟨checks.named, checks.said⟩
    · rintro ⟨named, said⟩
      obtain ⟨_, _, level, -, -, known, -⟩ := Settings.validate_eq_ok_iff.mp checked
      exact Checks.refuses ⟨⟨opened, ⟨level, known⟩, named⟩, said, checked⟩ listed loaders session
  stops_iff fault := by
    refine ⟨fun ⟨failed, unserved⟩ => ?_, fun stops => stops.execute_eq loaders session⟩
    rcases startup_cases store arguments with
      ⟨other, stops⟩ | ⟨settings, findings, checks, listed | ⟨valid, id, known⟩⟩
    · have same := (stops.execute_eq loaders session).1
      rwa [Except.error.inj (failed.symm.trans same)]
    · have ended := (checks.refuses listed loaders session).ended
      rw [failed] at ended
      contradiction
    · have served := checks.serves valid known loaders session
      rw [unserved] at served
      contradiction
  serves_iff := by
    constructor
    · intro served
      rcases startup_cases store arguments with
        ⟨fault, stops⟩ | ⟨settings, findings, checks, listed | ⟨valid, id, known⟩⟩
      · rw [(stops.execute_eq loaders session).2] at served
        contradiction
      · rw [(checks.refuses listed loaders session).unserved] at served
        contradiction
      · exact ⟨settings, findings, id, checks, valid, known⟩
    · rintro ⟨settings, findings, id, checks, valid, known⟩
      exact checks.serves valid known loaders session

/-- A run with accepted arguments lists the errors among its settings, unless its console has a
level that is named like something else or a definition is two dashes only. -/
theorem runWith_begins {argv : List String} (accepted : Arguments.read argv = .ok arguments)
    (loaders : Workspace → Loaders) (session : Session) (store : Store) :
    Begins session store arguments (runWith loaders session store argv) := by
  unfold runWith
  rw [accepted]
  exact begins loaders session store arguments

def consoleStore (level : String) : Store :=
  [("default/logging/console_enabled", .bool true), ("default/logging/console_level", .text level)]

def unknownLevel : Settings.Findings where
  errors := ["Invalid console log level: LOUD"]
  warnings := []

theorem validate_loud :
    (Settings.begin { store := consoleStore "loud" }).validate = .ok unknownLevel := by
  have known : (Settings.begin { store := consoleStore "loud" }).consoleLogLevel =
      .ok "loud" := rfl
  have patience : (Settings.begin { store := consoleStore "loud" }).loadTimeout =
      .ok Settings.fallbackTimeout := rfl
  have errors : Settings.timeoutErrors Settings.fallbackTimeout = [] := by decide +kernel
  have warnings : Settings.timeoutWarnings Settings.fallbackTimeout = [] := by decide +kernel
  refine Settings.validate_eq_ok_iff.mpr ⟨_, _, _, rfl, patience, known, ?_⟩
  rw [errors, warnings]
  rfl

end CommandLine

theorem CommandLine.runWith_begins_consoleStore :
    let completion := fun level =>
      runWith (fun _ => twoGroups) freshSession (consoleStore level) ["frames", "sheet"]
    Refuses freshSession unknownLevel (completion "loud") ∧
      (completion "basic_format").service = none ∧
        (completion "basic_format").outcome =
          .error (.unknownLogLevel "%(levelname)s:%(name)s:%(message)s") := by
  have accepted : Arguments.read ["frames", "sheet"] =
      .ok { sources := [.text "frames", .text "sheet"] } := rfl
  have opened (level : String) : openedSettings (consoleStore level)
      { sources := [.text "frames", .text "sheet"] } =
        .ok (Settings.begin { store := consoleStore level }) := rfl
  have begins (level : String) :=
    runWith_begins accepted (fun _ => twoGroups) freshSession (consoleStore level)
  have named : ¬ (Settings.begin { store := consoleStore "loud" }).IsMisnamed := by
    rintro ⟨-, level, known, misnomer⟩
    obtain rfl : "loud" = level := Except.ok.inj known
    exact absurd misnomer (by decide)
  have misnamed : (Settings.begin { store := consoleStore "basic_format" }).IsMisnamed :=
    ⟨rfl, "basic_format", rfl, by decide⟩
  have stops := ((begins "basic_format").stops_iff _).mpr
    (.name (opened "basic_format") misnamed rfl rfl)
  exact ⟨((begins "loud").refuses_iff _ _ (opened "loud") validate_loud nofun).mpr
    ⟨named, nofun⟩, stops.2, stops.1⟩

end Flipbook
