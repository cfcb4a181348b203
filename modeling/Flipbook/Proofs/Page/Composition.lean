import Flipbook.Proofs.Definition.Denotation
import Flipbook.Proofs.Definition.Recovery
import Flipbook.Proofs.Page.FirstFailure
import Flipbook.Proofs.Page.Resolution

/-!
Definitions given one after the other to the same group. Each of them picks from what the one before
it left, so that together they are one list of positions among the first members, and no index that
they play is left out without a report.
-/

namespace Flipbook

namespace Definition

variable {definition : String} {count : Nat}

/-- What is reported for a definition on `count` members: the characters that it cannot have, the
tokens that do not fit, and each index played that has no member. -/
def reports (definition : String) (count : Nat) : List Diagnostic :=
  tokenDiagnostics definition ++ syntaxDiagnostics (tokens definition) definition ++
    ((playback (terms definition)).filter (isOutside count)).map frameOutOfRange

theorem countP_reports (definition : String) (count : Nat) :
    (reports definition count).countP (·.code = .frameOutOfRange) =
      ((playback (terms definition)).filter (isOutside count)).length := by
  have characters : (tokenDiagnostics definition).countP (·.code = .frameOutOfRange) = 0 := by
    refine List.countP_eq_zero.mpr fun problem member => ?_
    simp [code_of_mem_tokenDiagnostics member]
  have misfits : (syntaxDiagnostics (tokens definition) definition).countP
      (·.code = .frameOutOfRange) = 0 := by
    refine List.countP_eq_zero.mpr fun problem member => ?_
    simp [code_of_mem_syntaxDiagnostics member]
  rw [reports, List.countP_append, List.countP_append, characters, misfits, Nat.zero_add,
    List.countP_eq_length.mpr, List.length_map]
  intro problem member
  obtain ⟨index, -, rfl⟩ := List.mem_map.mp member
  rfl

variable [Limits]

theorem compile_of_playable (fits : ¬ IsUnplayable definition count) :
    compile definition (some count) =
      { notices := (reports definition count).map .diagnostic
        outcome := .ok (playback (terms definition)) } := by
  have playable : ArePlayable (terms definition) (some (count : Int)) := by
    refine ⟨fun term member => Nat.not_lt.mp fun long => fits (.overlong term member long), ?_⟩
    rintro _ ⟨⟩ index played outside
    rw [← Bool.not_eq_false]
    exact fun large => fits (.unwritable index played outside large)
  rw [compile, expand_of_playable playable]
  simp [reports, termDiagnostics, outsideReports, Report.diagnoseAll, Report.bind]

/-- The positions that definitions pick one after the other, each within the list that the one
before it left. -/
def positions (count : Nat) : List String → List (List Nat)
  | [] => []
  | definition :: later =>
    let picked := within count (playback (terms definition))
    picked :: positions picked.length later

/-- A place looked up in the last list, the position found there in the list before it, and so on to
the first list. -/
def trace : List (List Nat) → Nat → Option Nat
  | [], place => some place
  | picked :: later, place => (trace later place).bind fun position => picked[position]?

end Definition

namespace Page

open Definition (playback terms reports positions trace within IsUnplayable)

variable {page last : Page} {name : String} {members : List Placed}

def playTexts (members : List Placed) (texts : List String) : List Placed :=
  texts.foldl (fun members text => play members (playback (terms text))) members

theorem getElem?_playTexts (members : List Placed) (texts : List String) (place : Nat) :
    (playTexts members texts)[place]? =
      (trace (positions members.length texts) place).bind fun position => members[position]? := by
  -- From any members on, since the later definitions are given what the first one left.
  induction texts generalizing members with
  | nil => rfl
  | cons text rest ih =>
      have following := ih (play members (playback (terms text)))
      rw [length_play] at following
      have picked : (fun position : Nat => (play members (playback (terms text)))[position]?) =
          fun position : Nat => (within members.length (playback (terms text)))[position]?.bind
            fun index : Nat => members[index]? := by
        funext position
        exact getElem?_play ..
      rw [picked] at following
      rw [positions, trace, Option.bind_assoc]
      exact following

theorem length_playTexts (members : List Placed) (texts : List String) :
    (playTexts members texts).length =
      ((positions members.length texts).getLast?.map List.length).getD members.length := by
  induction texts generalizing members with
  | nil => rfl
  | cons text rest ih =>
      have following := ih (play members (playback (terms text)))
      rw [length_play] at following
      rw [positions, List.getLast?_cons]
      refine following.trans ?_
      cases (positions _ rest).getLast? <;> rfl

def textsFor (name : String) (calls : List Definitions) : List String :=
  calls.filterMap (Keyed.lookup? name)

theorem playTexts_textsFor_cons (definitions : Definitions) (later : List Definitions) :
    playTexts members (textsFor name (definitions :: later)) =
      playTexts (playedBy definitions name members) (textsFor name later) := by
  unfold textsFor playedBy
  cases found : Keyed.lookup? name definitions with
  | none => rw [List.filterMap_cons_none found]
  | some text =>
      rw [List.filterMap_cons_some found]
      rfl

variable [Limits]

theorem takes_playOne_iff {entry other : String × String} (different : entry.1 ≠ other.1) :
    (page.playOne entry).Takes other ↔ page.Takes other := by
  refine ⟨fun takes => ⟨?_, ?_⟩, fun takes => takes.playOne different⟩
  · rw [← keys_playOne page entry]
    exact takes.listed
  · rw [← find?_playOne_of_ne different page]
    exact takes.fits

theorem takes_of_defineOne {next : Page} {definition : String}
    (applied : (page.defineOne name definition).outcome = .ok next) :
    page.Takes (name, definition) := by
  cases known : page.groups.find? name with
  | none =>
      rw [defineOne_of_unknown known] at applied
      contradiction
  | some members =>
      have listed : name ∈ page.groups.keys := by
        refine Decidable.byContradiction fun missing => ?_
        rw [Groups.find?, Keyed.lookup?_eq_none_iff.mpr missing] at known
        contradiction
      refine ⟨listed, fun others found => ?_⟩
      obtain rfl := Option.some.inj (known.symm.trans found)
      rcases Definition.compile_cases definition members.length with
        ⟨fits, -⟩ | ⟨-, fault, failed, -⟩
      · exact fits
      · rw [defineOne_of_known known, failed] at applied
        contradiction

theorem outcome_define_iff {definitions : Definitions} (distinct : (definitions.map (·.1)).Nodup) :
    (page.define definitions).2.outcome = .ok () ↔ ∀ entry ∈ definitions, page.Takes entry := by
  refine ⟨fun applied => ?_, fun takes => (define_of_takes distinct takes).2⟩
  induction definitions generalizing page with
  | nil => exact List.forall_mem_nil _
  | cons entry rest ih =>
      obtain ⟨name, definition⟩ := entry
      obtain ⟨fresh, distinct⟩ := List.nodup_cons.mp distinct
      cases outcome : (page.defineOne name definition).outcome with
      | error fault =>
          rw [define_of_stopped outcome] at applied
          contradiction
      | ok next =>
          have takes := takes_of_defineOne outcome
          obtain rfl : page.playOne (name, definition) = next :=
            Except.ok.inj (takes.defineOne.symm.trans outcome)
          rw [define_of_applied outcome] at applied
          refine List.forall_mem_cons.mpr ⟨takes, fun other member => ?_⟩
          refine (takes_playOne_iff ?_).mp (ih distinct applied other member)
          intro same
          exact fresh (List.mem_map.mpr ⟨other, member, same.symm⟩)

def entryReports (page : Page) (entry : String × String) : List Diagnostic :=
  reports entry.2 ((page.groups.find? entry.1).getD []).length

theorem diagnostics_defineOne {definition : String} (takes : page.Takes (name, definition)) :
    Notice.diagnostics (page.defineOne name definition).notices =
      page.entryReports (name, definition) := by
  obtain ⟨members, known⟩ := takes.exists_members
  have compiled := Definition.compile_of_playable (takes.fits members known)
  dsimp only at known
  unfold defineOne
  simp only [known, compiled, Report.bind, Report.log, Report.ok, Notice.diagnostics_append,
    Notice.diagnostics_map, entryReports, Option.getD_some]
  exact List.append_nil _

theorem diagnostics_define {definitions : Definitions} (distinct : (definitions.map (·.1)).Nodup)
    (takes : ∀ entry ∈ definitions, page.Takes entry) :
    Notice.diagnostics (page.define definitions).2.notices =
      definitions.flatMap page.entryReports := by
  induction definitions generalizing page with
  | nil => rfl
  | cons entry rest ih =>
      obtain ⟨name, definition⟩ := entry
      obtain ⟨fresh, distinct⟩ := List.nodup_cons.mp distinct
      obtain ⟨first, others⟩ := List.forall_mem_cons.mp takes
      have apart : ∀ other ∈ rest, name ≠ other.1 := by
        intro other member same
        exact fresh (List.mem_map.mpr ⟨other, member, same.symm⟩)
      have left : ∀ other ∈ rest, (page.playOne (name, definition)).Takes other :=
        fun other member => (others other member).playOne (apart other member)
      have following := ih distinct left
      rw [define_of_applied first.defineOne, Notice.diagnostics_append,
        diagnostics_defineOne first, following, List.flatMap_cons]
      congr 1
      refine List.flatMap_congr fun other member => ?_
      rw [entryReports, entryReports, find?_playOne_of_ne (apart other member)]

theorem defined_eq_ok_iff {definitions : Definitions} {next : Page}
    (distinct : (definitions.map (·.1)).Nodup) : page.defined definitions = .ok next ↔
      (∀ entry ∈ definitions, page.Takes entry) ∧ next = page.playAll definitions := by
  rw [← outcome_define_iff distinct, defined]
  cases outcome : (page.define definitions).2.outcome with
  | error fault => exact iff_of_false nofun fun both => nomatch both.1
  | ok _ =>
      have takes := (outcome_define_iff distinct).mp outcome
      rw [(define_of_takes distinct takes).1]
      simp [Except.map, eq_comm]

theorem find?_of_defined {definitions : Definitions} {next : Page}
    (distinct : (definitions.map (·.1)).Nodup) (applied : page.defined definitions = .ok next)
    (known : page.groups.find? name = some members) :
    next.groups.find? name = some (playedBy definitions name members) := by
  obtain ⟨-, rfl⟩ := (defined_eq_ok_iff distinct).mp applied
  rw [find?_playAll page distinct, known]
  rfl

def defineEach (page : Page) (calls : List Definitions) : Except Fault Page :=
  calls.foldlM defined page

def TakesEach (page : Page) : List Definitions → Prop
  | [] => True
  | definitions :: later =>
    (∀ entry ∈ definitions, page.Takes entry) ∧ (page.playAll definitions).TakesEach later

theorem defineEach_cons_eq_ok_iff {definitions : Definitions} {later : List Definitions} :
    page.defineEach (definitions :: later) = .ok last ↔
      ∃ next, page.defined definitions = .ok next ∧ next.defineEach later = .ok last := by
  cases first : page.defined definitions <;>
    simp [defineEach, List.foldlM_cons, first, bind, Except.bind]

theorem find?_of_defineEach {calls : List Definitions}
    (distinct : ∀ definitions ∈ calls, (definitions.map (·.1)).Nodup)
    (applied : page.defineEach calls = .ok last)
    (known : page.groups.find? name = some members) :
    last.groups.find? name = some (playTexts members (textsFor name calls)) := by
  induction calls generalizing page members with
  | nil =>
      obtain rfl := Except.ok.inj applied
      exact known
  | cons definitions later ih =>
      obtain ⟨apart, distinct⟩ := List.forall_mem_cons.mp distinct
      obtain ⟨next, first, following⟩ := defineEach_cons_eq_ok_iff.mp applied
      rw [playTexts_textsFor_cons]
      exact ih distinct following (find?_of_defined apart first known)

theorem exists_defineEach_iff {calls : List Definitions}
    (distinct : ∀ definitions ∈ calls, (definitions.map (·.1)).Nodup) :
    (∃ last, page.defineEach calls = .ok last) ↔ page.TakesEach calls := by
  induction calls generalizing page with
  | nil => exact iff_of_true ⟨page, rfl⟩ trivial
  | cons definitions later ih =>
      obtain ⟨apart, distinct⟩ := List.forall_mem_cons.mp distinct
      rw [TakesEach, ← ih distinct]
      constructor
      · rintro ⟨last, applied⟩
        obtain ⟨next, first, following⟩ := defineEach_cons_eq_ok_iff.mp applied
        obtain ⟨takes, rfl⟩ := (defined_eq_ok_iff apart).mp first
        exact ⟨takes, last, following⟩
      · rintro ⟨takes, last, following⟩
        have first := (defined_eq_ok_iff apart).mpr ⟨takes, rfl⟩
        exact ⟨last, defineEach_cons_eq_ok_iff.mpr ⟨_, first, following⟩⟩

structure Picks (text : String) (current left : List Placed) : Prop where
  compiled : (Definition.compile text none).outcome = .ok (playback (terms text))
  picked : left.map some =
    (within current.length (playback (terms text))).map fun position => current[position]?
  accounted : left.length + (reports text current.length).countP (·.code = .frameOutOfRange) =
    (playback (terms text)).length

theorem picks_play {text : String} (fits : ¬ IsUnplayable text members.length) :
    Picks text members (play members (playback (terms text))) := by
  refine ⟨(Definition.compile_none_iff text).mpr fun term member => ?_, map_some_play _ _, ?_⟩
  · exact Nat.le_of_not_lt fun long => fits (.overlong term member long)
  · rw [length_play, Definition.countP_reports, Definition.length_within_add]

/-- What calls with definitions do to a group, one after the other. -/
structure Composes (page : Page) (name : String) (members : List Placed)
    (calls : List Definitions) : Prop where
  applied_iff : (∃ last, page.defineEach calls = .ok last) ↔ page.TakesEach calls
  step : ∀ earlier definitions later before after, calls = earlier ++ definitions :: later →
    page.defineEach earlier = .ok before → before.defined definitions = .ok after →
      Notice.diagnostics (before.define definitions).2.notices =
        definitions.flatMap before.entryReports ∧
      ∀ text ∈ Keyed.lookup? name definitions, ∃ current left,
        before.groups.find? name = some current ∧ after.groups.find? name = some left ∧
          Picks text current left
  composed : ∀ last, page.defineEach calls = .ok last → ∃ left,
    last.groups.find? name = some left ∧
    left.length = ((positions members.length (textsFor name calls)).getLast?.map
      List.length).getD members.length ∧
    ∀ place : Nat, left[place]? =
      (trace (positions members.length (textsFor name calls)) place).bind fun position =>
        members[position]?

theorem define_composes (known : page.groups.find? name = some members)
    {calls : List Definitions}
    (distinct : ∀ definitions ∈ calls, (definitions.map (·.1)).Nodup) :
    Composes page name members calls := by
  refine ⟨exists_defineEach_iff distinct, ?_, ?_⟩
  · rintro earlier definitions later before after rfl reached applied
    obtain ⟨past, rest⟩ := List.forall_mem_append.mp distinct
    have apart := rest definitions List.mem_cons_self
    obtain ⟨takes, -⟩ := (defined_eq_ok_iff apart).mp applied
    refine ⟨diagnostics_define apart takes, fun text found => ?_⟩
    have current := find?_of_defineEach past reached known
    have left := find?_of_defined apart applied current
    rw [playedBy, show Keyed.lookup? name definitions = some text from found] at left
    refine ⟨_, _, current, left, picks_play ?_⟩
    exact (takes (name, text) (Keyed.mem_of_lookup? found)).fits _ current
  · intro last applied
    exact ⟨_, find?_of_defineEach distinct applied known, length_playTexts members _,
      getElem?_playTexts members _⟩

theorem not_isUnplayable {text : String} {count : Int}
    (roomy : ∀ term ∈ terms text, term.frames.length ≤ Limits.maxItems)
    (writable : ∀ index ∈ playback (terms text), Text.isWritable index = true) :
    ¬ IsUnplayable text count := by
  rintro (⟨term, member, long⟩ | ⟨index, played, -, large⟩)
  · exact Nat.not_le_of_lt long (roomy term member)
  · exact Bool.false_ne_true (large.symm.trans (writable index played))

end Page

theorem Page.define_composes_of_two_calls :
    (∀ definitions ∈ [[("run", "1,0-5")], [("jump", "0"), ("run", "1(2),9")]],
      (definitions.map (·.1)).Nodup) ∧
    ∃ page : Page, page.groups.find? "run" =
        some [⟨0, { name := "run0" }⟩, ⟨1, { name := "run1" }⟩, ⟨2, { name := "run2" }⟩] ∧
      Composes page "run"
        [⟨0, { name := "run0" }⟩, ⟨1, { name := "run1" }⟩, ⟨2, { name := "run2" }⟩]
        [[("run", "1,0-5")], [("jump", "0"), ("run", "1(2),9")]] ∧
      ∃ last, page.defineEach [[("run", "1,0-5")], [("jump", "0"), ("run", "1(2),9")]] = .ok last ∧
        last.groups.find? "run" = some [⟨0, { name := "run0" }⟩, ⟨0, { name := "run0" }⟩] := by
  have distinct : ∀ definitions ∈ [[("run", "1,0-5")], [("jump", "0"), ("run", "1(2),9")]],
      (definitions.map (·.1)).Nodup := by decide
  let page : Page :=
    { frames := [{ name := "run0" }, { name := "run1" }, { name := "run2" }, { name := "jump0" }]
      groups := [("run", [⟨0, { name := "run0" }⟩, ⟨1, { name := "run1" }⟩,
        ⟨2, { name := "run2" }⟩]), ("jump", [⟨3, { name := "jump0" }⟩])] }
  have known : page.groups.find? "run" = some [⟨0, { name := "run0" }⟩, ⟨1, { name := "run1" }⟩,
      ⟨2, { name := "run2" }⟩] := rfl
  have composes := define_composes known distinct
  have first : ∀ entry ∈ [("run", "1,0-5")], page.Takes entry := by
    refine List.forall_mem_singleton.mpr ⟨by decide, fun _ _ => not_isUnplayable ?_ ?_⟩
    · decide +kernel
    · decide +kernel
  have second : ∀ entry ∈ [("jump", "0"), ("run", "1(2),9")],
      (page.playAll [("run", "1,0-5")]).Takes entry := by
    refine List.forall_mem_cons.mpr ⟨⟨by decide, fun _ _ => not_isUnplayable ?_ ?_⟩,
      List.forall_mem_singleton.mpr ⟨by decide, fun _ _ => not_isUnplayable ?_ ?_⟩⟩
    all_goals decide +kernel
  obtain ⟨last, applied⟩ := composes.applied_iff.mpr ⟨first, second, trivial⟩
  obtain ⟨left, found, -, placed⟩ := composes.composed last applied
  have picked : Definition.positions 3
      (textsFor "run" [[("run", "1,0-5")], [("jump", "0"), ("run", "1(2),9")]]) =
        [[1, 0, 1, 2], [1, 1]] := by decide
  refine ⟨distinct, page, known, composes, last, applied, found.trans (congrArg some ?_)⟩
  refine List.ext_getElem? fun place => (placed place).trans ?_
  rw [List.length_cons, List.length_cons, List.length_singleton, picked]
  match place with
  | 0 => rfl
  | 1 => rfl
  | _ + 2 => rfl

end Flipbook
