import Flipbook.Proofs.AtlasService.Awaiting
import Flipbook.Proofs.CommandLine.Building
import Flipbook.Proofs.CommandLine.Printing
import Flipbook.Proofs.Settings.Assignments

/-!
A whole run of the program. What it prints and how it ends follow from the page that loading and
definitions come to, and it leaves a service that is closed.
-/

namespace Flipbook.CommandLine

variable {loaders : Workspace → Loaders} {arguments : Arguments} {page : Page} {results : Results}
  {order : Groups.Order} {fault : Fault} {selectors : List (Option Selector)} {session : Session}
  {completion : Completion} {output : String}

theorem handle_of_isHandled (failed : completion.outcome = .error fault)
    (handled : isHandled fault = true) :
    (handle completion).outcome = .ok 1 ∧
      (handle completion).session.output = completion.session.output ∧
      (handle completion).service = completion.service ∧
      ∃ logged, (handle completion).session.errors =
        logged ++ ("error: " ++ fault.message) ++ "\n" := by
  have told : handle completion =
      { completion with
        session := (completion.session.log ⟨mainLogger, .error, fault.message⟩).printError
          ("error: " ++ fault.message)
        outcome := .ok 1 } := by
    unfold handle
    simp only [failed, handled, if_true]
  rw [told]
  exact ⟨rfl, Session.output_log .., rfl, _, rfl⟩

theorem handle_of_escapes (failed : completion.outcome = .error fault)
    (escapes : isHandled fault = false) : handle completion = completion := by
  unfold handle
  simp only [failed, escapes]
  rfl

theorem handle_of_ok {code : Nat} (succeeded : completion.outcome = .ok code) :
    handle completion = completion := by
  unfold handle
  simp only [succeeded]

theorem closed_of_served (served : ∃ left, completion.service = some left ∧ left.IsClosed) :
    ∀ left, completion.service = some left → left.IsClosed := by
  obtain ⟨left, kept, closed⟩ := served
  intro other again
  exact Option.some.inj (kept.symm.trans again) ▸ closed

theorem unended_of_failed (failed : completion.outcome = .error fault) (code : Nat) :
    completion.outcome ≠ .ok code := by
  intro ended
  rw [failed] at ended
  contradiction

theorem fileLoaders_give (workspace : Workspace) : (fileLoaders workspace).Give := by
  intro resource source
  cases resource with
  | metadata | image => exact ⟨_, rfl⟩

section

variable [Limits]

inductive Serving (arguments : Arguments) (output : String) (completion : Completion) :
    Except Fault Page → Prop
  | page (page : Page)
      (printing : Printing page (selectorsOf arguments page) output completion) :
      Serving arguments output completion (.ok page)
  | failed (fault : Fault) (failed : completion.outcome = .error fault)
      (silent : completion.session.output = output) :
      Serving arguments output completion (.error fault)

theorem Serving.congr {other : Completion} {outcome : Except Fault Page}
    (serving : Serving arguments output completion outcome)
    (same : other.outcome = completion.outcome)
    (shows : other.session.output = completion.session.output) :
    Serving arguments output other outcome := by
  cases serving with
  | page page printing => exact .page page (printing.congr same shows)
  | failed fault failed silent => exact .failed fault (same.trans failed) (shows.trans silent)

section

variable {argv : List String} {settings : Settings} {service : AtlasService}

theorem usePage_serves (accepted : Arguments.read argv = .ok arguments)
    (new : AtlasService.IsNew service) (workers : 0 < service.workers)
    (give : (loaders session.workspace).Give) (lasts : service.defaultPatience.Lasts)
    (definitions : Page.Definitions) :
    (usePage loaders session service arguments definitions).1.IsBegun ∧
      Serving arguments session.output
        (usePage loaders session service arguments definitions).2
        ((requestOf arguments definitions).sequential (loaders session.workspace).results
          service.order) := by
  obtain ⟨outcome, begun⟩ := AtlasService.awaitPage_of_isNew new workers give lasts
    arguments.atlasId (requestOf arguments definitions)
  unfold usePage
  dsimp only
  rw [← outcome]
  split
  next fault failed =>
      rw [failed]
      exact ⟨begun, .failed fault rfl (Session.output_logAll ..)⟩
  next page loaded =>
      rw [loaded]
      refine ⟨begun, .page page ?_⟩
      rw [← Session.output_logAll session]
      exact printing (answers_of_read accepted page) _

theorem withService_serves (accepted : Arguments.read argv = .ok arguments)
    (made : (AtlasService.ofSettings settings).outcome = .ok service)
    (give : ∀ workspace, (loaders workspace).Give) (lasts : service.defaultPatience.Lasts)
    (session : Session) (definitions : Page.Definitions) :
    (∃ left, (withService loaders session settings arguments definitions).service = some left ∧
        left.IsClosed) ∧
      Serving arguments session.output
        (withService loaders session settings arguments definitions)
        ((requestOf arguments definitions).sequential
          (loaders (session.logAll (AtlasService.ofSettings settings).notices).workspace).results
          service.order) := by
  obtain ⟨new, workers⟩ := AtlasService.isNew_ofSettings made
  obtain ⟨begun, serving⟩ := usePage_serves accepted new workers (give
    (session.logAll (AtlasService.ofSettings settings).notices).workspace) lasts definitions
  unfold withService
  simp only [made]
  rw [Session.output_logAll] at serving
  exact ⟨⟨_, rfl, begun.isClosed_close⟩, serving.congr rfl (Session.output_logAll ..)⟩

theorem Printing.handle_eq (printing : Printing page selectors output completion) :
    handle completion = completion := by
  cases printing with
  | printed printable lines listed succeeded shown => exact handle_of_ok succeeded
  | stopped selector member unprintable fault failed escapes =>
      exact handle_of_escapes failed escapes

/-- What a run comes to whose arguments are accepted: lines for all selectors, or the reason why
there is no page. -/
structure Delivers (arguments : Arguments) (results : Results) (order : Groups.Order)
    (output : String) (completion : Completion) : Prop where
  succeeds : completion.outcome = .ok 0 ↔
    ∃ page, built arguments results order = .ok page ∧
      ∀ selector ∈ selectorsOf arguments page, IsPrintable selector
  prints : ∀ page, built arguments results order = .ok page → completion.outcome = .ok 0 →
    ∃ lines, List.Forall₂ (IsLine page) (selectorsOf arguments page) lines ∧
      completion.session.output = output ++ ended lines
  fails : completion.outcome = .ok 1 ↔
    IsApplicable arguments results order ∧ ∃ fault, built arguments results order = .error fault
  reports : ∀ fault, built arguments results order = .error fault →
    completion.outcome = .ok 1 →
      ((∃ identity cause, fault = .pageBuild identity cause) ∨
        ∃ name known, fault = .unknownAnimation name known) ∧
      completion.session.output = output ∧
      ∃ logged, completion.session.errors = logged ++ ("error: " ++ fault.message) ++ "\n"
  closes : ∀ code, completion.outcome = .ok code →
    (code = 0 ∨ code = 1) ∧ ∃ left, completion.service = some left ∧ left.IsClosed
  leaves : ∀ left, completion.service = some left → left.IsClosed
  merges : ∀ pairs, arguments.definitions = pairs.map some →
    ∃ definitions, Merges pairs definitions ∧
      built arguments results order =
        (requestOf arguments definitions).sequential results order

theorem Delivers.of_unended (unended : ∀ code, completion.outcome ≠ .ok code)
    (incomplete : ¬ ∃ page, built arguments results order = .ok page ∧
      ∀ selector ∈ selectorsOf arguments page, IsPrintable selector)
    (unfailed : ¬ (IsApplicable arguments results order ∧
      ∃ fault, built arguments results order = .error fault))
    (leaves : ∀ left, completion.service = some left → left.IsClosed) :
    Delivers arguments results order output completion where
  succeeds := iff_of_false (unended 0) incomplete
  prints _ _ ended := absurd ended (unended 0)
  fails := iff_of_false (unended 1) unfailed
  reports _ _ ended := absurd ended (unended 1)
  closes code ended := absurd ended (unended code)
  leaves := leaves
  merges := exists_merges arguments results order

theorem Delivers.of_page (made : built arguments results order = .ok page)
    (printing : Printing page (selectorsOf arguments page) output completion)
    (served : ∃ left, completion.service = some left ∧ left.IsClosed) :
    Delivers arguments results order output completion := by
  have leaves := closed_of_served served
  obtain ⟨left, kept, closed⟩ := served
  have unfailed : ¬ (IsApplicable arguments results order ∧
      ∃ fault, built arguments results order = .error fault) := by
    rintro ⟨-, fault, failed⟩
    rw [made] at failed
    contradiction
  cases printing with
  | printed printable lines listed succeeded shown =>
      have other : completion.outcome ≠ .ok 1 := by
        rw [succeeded]
        nofun
      exact
        { succeeds := iff_of_true succeeded ⟨page, made, printable⟩
          prints := by
            intro again same _
            obtain rfl := Except.ok.inj (made.symm.trans same)
            exact ⟨lines, listed, shown⟩
          fails := iff_of_false other unfailed
          reports := fun _ _ ended => absurd ended other
          closes := fun code ended =>
            ⟨.inl (Except.ok.inj (succeeded.symm.trans ended)).symm, left, kept, closed⟩
          leaves
          merges := exists_merges arguments results order }
  | stopped selector member unprintable fault failed escapes =>
      have incomplete : ¬ ∃ page, built arguments results order = .ok page ∧
          ∀ selector ∈ selectorsOf arguments page, IsPrintable selector := by
        rintro ⟨again, same, printable⟩
        obtain rfl := Except.ok.inj (made.symm.trans same)
        exact unprintable (printable selector member)
      exact .of_unended (unended_of_failed failed) incomplete unfailed leaves

theorem Delivers.of_fault (unmade : built arguments results order = .error fault)
    (failed : completion.outcome = .error fault)
    (silent : completion.session.output = output)
    (served : ∃ left, completion.service = some left ∧ left.IsClosed) :
    Delivers arguments results order output (handle completion) := by
  have leaves := closed_of_served served
  obtain ⟨left, present, closed⟩ := served
  have incomplete : ¬ ∃ page, built arguments results order = .ok page ∧
      ∀ selector ∈ selectorsOf arguments page, IsPrintable selector := by
    rintro ⟨page, made, -⟩
    rw [unmade] at made
    contradiction
  rcases built_cases arguments results order with
    ⟨page, made, -⟩ | ⟨other, same, known⟩
  · rw [unmade] at made
    contradiction
  obtain rfl := Except.error.inj (unmade.symm.trans same)
  rcases known with ⟨applicable, told⟩ | ⟨inapplicable, escapes⟩
  · have handled : isHandled fault = true := by
      rcases told with ⟨identity, cause, rfl⟩ | ⟨name, keys, rfl⟩ <;> rfl
    obtain ⟨ended, quiet, kept, written⟩ := handle_of_isHandled failed handled
    have unfinished : (handle completion).outcome ≠ .ok 0 := by
      rw [ended]
      nofun
    exact
      { succeeds := iff_of_false unfinished incomplete
        prints := fun _ _ finished => absurd finished unfinished
        fails := iff_of_true ended ⟨applicable, fault, unmade⟩
        reports := by
          intro again given _
          obtain rfl := Except.error.inj (unmade.symm.trans given)
          exact ⟨told, quiet.trans silent, written⟩
        closes := fun code finished =>
          ⟨.inr (Except.ok.inj (ended.symm.trans finished)).symm, left, kept ▸ present, closed⟩
        leaves := kept ▸ leaves
        merges := exists_merges arguments results order }
  · rw [handle_of_escapes failed escapes]
    exact .of_unended (unended_of_failed failed) incomplete (fun given => inapplicable given.1)
      leaves

theorem proceed_delivers (accepted : Arguments.read argv = .ok arguments)
    (made : (AtlasService.ofSettings settings).outcome = .ok service)
    (give : ∀ workspace, (loaders workspace).Give) (lasts : service.defaultPatience.Lasts) :
    Delivers arguments
      (loaders (session.logAll (AtlasService.ofSettings settings).notices).workspace).results
      service.order session.output (proceed loaders session settings arguments) := by
  unfold proceed
  rcases definitionPairs_cases arguments.definitions 0 with
    ⟨pairs, given, read⟩ | ⟨unsaid, place, failed⟩
  · obtain ⟨served, serving⟩ := withService_serves accepted made give lasts session
      (Keyed.ofPairs pairs)
    rw [read]
    rw [← built_of_read read] at serving
    generalize ended : built arguments _ service.order = outcome at serving
    cases serving with
    | page page printing =>
        dsimp only
        rw [printing.handle_eq]
        exact .of_page ended printing served
    | failed fault failed silent => exact .of_fault ended failed silent served
  · rw [failed]
    refine .of_unended nofun ?_ (fun given => given.1.said unsaid) nofun
    rintro ⟨page, made, -⟩
    rw [built_of_failed failed] at made
    contradiction

theorem exists_prepare {store : Store}
    (opened : Settings.openProfile store "default"
      (arguments.settingsFile.getD "sprite_atlas/sprite_atlas") = .ok settings)
    (made : (AtlasService.ofSettings settings).outcome = .ok service) (session : Session) :
    ∃ ready, prepare session store arguments = .ok (settings, ready) ∧
      ready.output = session.output := by
  unfold AtlasService.ofSettings at made
  obtain ⟨findings, checked, rest⟩ := Report.exists_of_bind made
  obtain ⟨-, -, rest⟩ := Report.exists_of_bind rest
  split at rest
  next valid =>
      obtain ⟨-, level, known, listed⟩ := Settings.sound_of_valid checked valid
      obtain ⟨ready, logged, same⟩ := Session.exists_setUpLog known
        (fun _ => Session.levelOf_of_valid listed) session
      refine ⟨ready, ?_, same⟩
      simp only [prepare, opened, logged, bind, Except.bind]
      rfl
  next => contradiction

/-- Whatever the loads give, a run delivers what its arguments ask for, or says what kept a page
from it, unless it meets a limit of the machine. -/
theorem runWith_delivers {store : Store} (give : ∀ workspace, (loaders workspace).Give)
    (accepted : Arguments.read argv = .ok arguments)
    (opened : Settings.openProfile store "default"
      (arguments.settingsFile.getD "sprite_atlas/sprite_atlas") = .ok settings)
    (made : (AtlasService.ofSettings settings).outcome = .ok service)
    (lasts : service.defaultPatience.Lasts) (session : Session) :
    ∃ ready, prepare session store arguments = .ok (settings, ready) ∧
      Delivers arguments
        (loaders (ready.logAll (AtlasService.ofSettings settings).notices).workspace).results
        service.order session.output (runWith loaders session store argv) := by
  obtain ⟨ready, prepared, same⟩ := exists_prepare opened made session
  refine ⟨ready, prepared, ?_⟩
  unfold runWith
  rw [accepted]
  simp only [execute, prepared]
  rw [← same]
  exact proceed_delivers accepted made give lasts

end

def twoGroups : Loaders where
  metadata _ :=
    some (.ok (.map [("frames", .list (["run0", "jump0"].map fun name =>
      .map [("name", .text name), ("source", .text "sheet"), ("top", .int 0), ("left", .int 0),
        ("width", .int 8), ("height", .int 8)]))]))
  image source := some (.ok source)

def twoGroupsArguments : Arguments where
  sources := [.text "frames", .text "sheet"]
  definitions := [some ("run", "0"), some ("jump", "0(2)"), some ("run", "0(3)")]
  selectors := [some (.group "run"), some (.group "jump"), some (.frame 1), some (.range 0 2)]

def freshSession : Session where
  workspace := { location := .ofText "/" }
  stamp := { consoleTime := "", fileTime := "", duration := "", line := "" }

def lines (page : Page) (selectors : List (Option Selector)) : List (Option String) :=
  selectors.map fun selector => selector.bind fun known =>
    ((known.select page).outcome.map (selectionLine known)).toOption

theorem lines_of_isLine {selectors : List (Option Selector)} {shown : List String}
    (listed : List.Forall₂ (IsLine page) selectors shown) :
    lines page selectors = shown.map some := by
  induction listed with
  | nil => rfl
  | cons line rest ih =>
      obtain ⟨selected⟩ := line
      simp only [lines, List.map_cons, Option.bind_some, selected] at ih ⊢
      rw [ih]
      rfl

end

theorem lasts_of_fallbackTimeout {service : AtlasService}
    (kept : service.timeout = Settings.fallbackTimeout) :
    service.defaultPatience.Lasts := by
  have counted : (AtlasService.nanoseconds Settings.fallbackTimeout).compareInt
      AtlasService.clockLimit = some .lt := by decide +kernel
  have positive : AtlasService.isPositive Settings.fallbackTimeout = true := by decide +kernel
  have nonzero : Settings.fallbackTimeout.isZero = false := by decide +kernel
  rw [AtlasService.defaultPatience, kept, nonzero]
  refine ⟨?_, positive⟩
  rw [AtlasService.checkTime, counted]

theorem lines_twoGroups (order : Groups.Order) :
    (built twoGroupsArguments twoGroups.results order).toOption.map
      (lines · twoGroupsArguments.selectors) = some (["run: run0 run0 run0", "jump: jump0 jump0",
        "1: jump0", "(0, 2): run0 jump0"].map some) := by
  cases order <;> decide +kernel

theorem isPrintable_twoGroups (page : Page) :
    ∀ selector ∈ selectorsOf twoGroupsArguments page, IsPrintable selector := by
  have short : (Selector.range 0 2).Fits := by
    unfold Selector.Fits
    decide
  have given : selectorsOf twoGroupsArguments page = twoGroupsArguments.selectors := rfl
  rw [given]
  exact List.forall_mem_cons.mpr ⟨⟨_, rfl, trivial⟩, List.forall_mem_cons.mpr ⟨⟨_, rfl, trivial⟩,
    List.forall_mem_cons.mpr ⟨⟨_, rfl, trivial⟩, List.forall_mem_singleton.mpr ⟨_, rfl, short⟩⟩⟩⟩

theorem runWith_delivers_twoGroups : ∃ settings service ready,
    let completion := runWith (fun _ => twoGroups) freshSession []
      ["frames", "sheet", "-d", "run=0", "-d", "jump=0(2)", "-d", "run=0(3)",
        "-s", "run", "-s", "jump", "-s", "1", "-s", "0:2"]
    (AtlasService.ofSettings settings).outcome = .ok service ∧
      prepare freshSession [] twoGroupsArguments = .ok (settings, ready) ∧
      Delivers twoGroupsArguments twoGroups.results service.order "" completion ∧
      completion.outcome = .ok 0 ∧ completion.session.output =
        "run: run0 run0 run0\njump: jump0 jump0\n1: jump0\n(0, 2): run0 jump0\n" := by
  have sound := Settings.Readings.Sound.begin "default" "sprite_atlas/sprite_atlas"
  obtain ⟨service, made, kept⟩ := sound.ofSettings
  rw [Settings.loadTimeout_begin] at kept
  have patient : service.timeout = Settings.fallbackTimeout := (Except.ok.inj kept).symm
  have give : ∀ workspace : Workspace, twoGroups.Give := by
    intro workspace resource source
    cases resource <;> exact ⟨_, rfl⟩
  have accepted : Arguments.read ["frames", "sheet", "-d", "run=0", "-d", "jump=0(2)",
      "-d", "run=0(3)", "-s", "run", "-s", "jump", "-s", "1", "-s", "0:2"] =
        .ok twoGroupsArguments := rfl
  have opened : Settings.openProfile [] "default" "sprite_atlas/sprite_atlas" =
      .ok (Settings.begin { store := [] }) := rfl
  obtain ⟨ready, prepared, delivers⟩ := runWith_delivers give accepted opened made
    (lasts_of_fallbackTimeout patient) freshSession
  have drawn := lines_twoGroups service.order
  cases loaded : built twoGroupsArguments twoGroups.results service.order with rw [loaded] at drawn
  | error fault => exact absurd drawn.symm (Option.some_ne_none _)
  | ok page =>
      have finished := delivers.succeeds.mpr ⟨page, loaded, isPrintable_twoGroups page⟩
      obtain ⟨shown, listed, output⟩ := delivers.prints page loaded finished
      obtain rfl :=
        some_injective ((lines_of_isLine listed).symm.trans (Option.some.inj drawn))
      exact ⟨_, service, ready, made, prepared, delivers, finished, output⟩

end Flipbook.CommandLine
