import Flipbook.Proofs.Page.Calls
import Flipbook.Proofs.Report
import Mathlib.Data.List.Nodup

/-!
A map of definitions applied to a page. Its order matters only where one of them cannot be applied:
what stands before it is applied, and what stands after it is not even read.
-/

namespace Flipbook

def Notice.isFatal : Notice → Bool
  | diagnostic problem => problem.isFatal
  | record _ => false

theorem Definition.isFatal_of_mem_compile [Limits] {definition : String} {count : Int}
    {notice : Notice} (member : notice ∈ (compile definition (some count)).notices) :
    notice.isFatal = false := by
  rcases Report.mem_notices_bind member with read | ⟨-, -, expanded⟩
  · obtain ⟨problem, among, rfl⟩ := List.mem_map.mp read
    rcases List.mem_append.mp among with bad | wrong
    · obtain ⟨character, -, rfl⟩ := List.mem_map.mp bad
      rfl
    · obtain ⟨rejected, -, rfl⟩ := List.mem_map.mp wrong
      rfl
  · obtain ⟨index, rfl⟩ := eq_frameOutOfRange_of_mem_expand expanded
    rfl

namespace Page

variable {page next : Page} {name definition : String} {members : List Placed}

def playOne (page : Page) (entry : String × String) : Page :=
  match page.groups.find? entry.1 with
  | none => page
  | some members =>
    { page with
      groups := page.groups.replace entry.1
        (play members (Definition.playback (Definition.terms entry.2))) }

def playAll (page : Page) (definitions : Definitions) : Page := definitions.foldl playOne page

def playedBy (definitions : Definitions) (key : String) (members : List Placed) : List Placed :=
  match Keyed.lookup? key definitions with
  | none => members
  | some definition => play members (Definition.playback (Definition.terms definition))

theorem playOne_of_unknown {entry : String × String}
    (missing : page.groups.find? entry.1 = none) : page.playOne entry = page := by
  rw [playOne, missing]

theorem playOne_of_known {entry : String × String}
    (known : page.groups.find? entry.1 = some members) : page.playOne entry =
      { page with
        groups := page.groups.replace entry.1
          (play members (Definition.playback (Definition.terms entry.2))) } := by
  rw [playOne, known]

theorem keys_playOne (page : Page) (entry : String × String) :
    (page.playOne entry).groups.keys = page.groups.keys := by
  cases known : page.groups.find? entry.1 with
  | none => rw [playOne_of_unknown known]
  | some members =>
      rw [playOne_of_known known]
      exact Keyed.keys_set known _

theorem find?_playOne_self (page : Page) (entry : String × String) :
    (page.playOne entry).groups.find? entry.1 = (page.groups.find? entry.1).map fun members =>
      play members (Definition.playback (Definition.terms entry.2)) := by
  cases known : page.groups.find? entry.1 with
  | none => rw [playOne_of_unknown known, known]; rfl
  | some members =>
      rw [playOne_of_known known]
      exact Keyed.lookup?_set_self _ _ _

theorem find?_playOne_of_ne {entry : String × String} (different : entry.1 ≠ name)
    (page : Page) : (page.playOne entry).groups.find? name = page.groups.find? name := by
  cases known : page.groups.find? entry.1 with
  | none => rw [playOne_of_unknown known]
  | some members =>
      rw [playOne_of_known known]
      exact Keyed.lookup?_set_of_ne different _ _

theorem playOne_comm {first second : String × String} (different : first.1 ≠ second.1)
    (page : Page) : (page.playOne first).playOne second = (page.playOne second).playOne first := by
  have kept := find?_playOne_of_ne different page
  have back := find?_playOne_of_ne different.symm page
  cases known : page.groups.find? first.1 with
  | none => rw [playOne_of_unknown known, playOne_of_unknown (back.trans known)]
  | some members =>
      cases other : page.groups.find? second.1 with
      | none => rw [playOne_of_unknown other, playOne_of_unknown (kept.trans other)]
      | some others =>
          rw [playOne_of_known (kept.trans other), playOne_of_known (back.trans known),
            playOne_of_known known, playOne_of_known other]
          congr 1
          exact Keyed.set_comm known different _ _

theorem playAll_perm {definitions reordered : Definitions} (perm : reordered.Perm definitions)
    (distinct : (definitions.map (·.1)).Nodup) :
    page.playAll reordered = page.playAll definitions := by
  refine (perm.symm.foldl_eq' ?_ page).symm
  intro first here second there reached
  by_cases same : first.1 = second.1
  · rw [List.inj_on_of_nodup_map distinct here there same]
  · exact playOne_comm same reached

theorem playedBy_of_not_mem {definitions : Definitions} {key : String}
    (missing : key ∉ definitions.map (·.1)) : playedBy definitions key = id := by
  funext members
  rw [playedBy, Keyed.lookup?_eq_none_iff.mpr missing]
  rfl

theorem playedBy_cons_self (entry : String × String) (rest : Definitions) :
    playedBy (entry :: rest) entry.1 = fun members =>
      play members (Definition.playback (Definition.terms entry.2)) := by
  funext members
  rw [playedBy, Keyed.lookup?, if_pos rfl]

theorem playedBy_cons_of_ne {entry : String × String} {key : String} (different : entry.1 ≠ key)
    (rest : Definitions) : playedBy (entry :: rest) key = playedBy rest key := by
  funext members
  rw [playedBy, Keyed.lookup?, if_neg different, playedBy]

theorem find?_playAll (page : Page) {definitions : Definitions}
    (distinct : (definitions.map (·.1)).Nodup) (key : String) :
    (page.playAll definitions).groups.find? key =
      (page.groups.find? key).map (playedBy definitions key) := by
  induction definitions generalizing page with
  | nil =>
      rw [playedBy_of_not_mem List.not_mem_nil, Option.map_id]
      rfl
  | cons entry rest ih =>
      obtain ⟨fresh, distinct⟩ := List.nodup_cons.mp distinct
      have following : (page.playAll (entry :: rest)).groups.find? key =
          ((page.playOne entry).groups.find? key).map (playedBy rest key) :=
        ih (page.playOne entry) distinct
      rw [following]
      by_cases own : entry.1 = key
      · subst key
        rw [find?_playOne_self, playedBy_of_not_mem fresh, playedBy_cons_self, Option.map_id]
        rfl
      · rw [find?_playOne_of_ne own, playedBy_cons_of_ne own]

variable [Limits]

/-- Whether an entry can be applied: it is for a group of the page and plays no more than fits. -/
structure Takes (page : Page) (entry : String × String) : Prop where
  listed : entry.1 ∈ page.groups.keys
  fits : ∀ members, page.groups.find? entry.1 = some members →
    ¬ Definition.IsUnplayable entry.2 members.length

theorem Takes.exists_members {entry : String × String} (takes : page.Takes entry) :
    ∃ members, page.groups.find? entry.1 = some members := by
  cases known : page.groups.find? entry.1 with
  | none => exact absurd takes.listed (Keyed.lookup?_eq_none_iff.mp known)
  | some members => exact ⟨members, rfl⟩

theorem Takes.defineOne (takes : page.Takes (name, definition)) :
    (page.defineOne name definition).outcome = .ok (page.playOne (name, definition)) := by
  obtain ⟨members, known⟩ := takes.exists_members
  rw [playOne_of_known known, defineOne_of_known known]
  rcases Definition.compile_cases definition members.length with
    ⟨-, compiled⟩ | ⟨unplayable, -⟩
  · rw [compiled]
    rfl
  · exact absurd unplayable (takes.fits members known)

theorem Takes.playOne {entry other : String × String} (takes : page.Takes other)
    (different : entry.1 ≠ other.1) : (page.playOne entry).Takes other := by
  constructor
  · rw [keys_playOne]
    exact takes.listed
  · rw [find?_playOne_of_ne different]
    exact takes.fits

theorem define_of_takes {definitions : Definitions} (distinct : (definitions.map (·.1)).Nodup)
    (takes : ∀ entry ∈ definitions, page.Takes entry) :
    (page.define definitions).1 = page.playAll definitions ∧
      (page.define definitions).2.outcome = .ok () := by
  induction definitions generalizing page with
  | nil => exact ⟨rfl, rfl⟩
  | cons entry rest ih =>
      obtain ⟨name, definition⟩ := entry
      obtain ⟨fresh, distinct⟩ := List.nodup_cons.mp distinct
      obtain ⟨first, others⟩ := List.forall_mem_cons.mp takes
      rw [define_of_applied first.defineOne]
      refine ih distinct fun other member => (others other member).playOne ?_
      intro same
      exact fresh (List.mem_map.mpr ⟨other, member, same.symm⟩)

theorem define_append {before : Definitions}
    (applied : (page.define before).2.outcome = .ok ()) (rest : Definitions) :
    page.define (before ++ rest) =
      (((page.define before).1.define rest).1, { ((page.define before).1.define rest).2 with
        notices := (page.define before).2.notices ++
          ((page.define before).1.define rest).2.notices }) := by
  induction before generalizing page with
  | nil => rfl
  | cons entry others ih =>
      obtain ⟨name, definition⟩ := entry
      cases outcome : (page.defineOne name definition).outcome with
      | error fault =>
          rw [define_of_stopped outcome] at applied
          contradiction
      | ok next =>
          rw [define_of_applied outcome] at applied
          rw [List.cons_append, define_of_applied outcome, define_of_applied outcome, ih applied]
          simp only [List.append_assoc]

theorem isFatal_of_mem_defineOne (known : name ∈ page.groups.keys) {notice : Notice}
    (member : notice ∈ (page.defineOne name definition).notices) : notice.isFatal = false := by
  cases found : page.groups.find? name with
  | none => exact absurd known (Keyed.lookup?_eq_none_iff.mp found)
  | some members =>
      simp only [defineOne, found] at member
      rcases Report.mem_notices_bind member with compiled | ⟨indices, -, applied⟩
      · exact Definition.isFatal_of_mem_compile compiled
      · rcases Report.mem_notices_bind applied with logged | ⟨-, -, nothing⟩
        · rw [List.mem_singleton.mp logged]
          rfl
        · exact absurd nothing List.not_mem_nil

theorem isFatal_of_mem_define {definitions : Definitions}
    (known : ∀ entry ∈ definitions, entry.1 ∈ page.groups.keys) {notice : Notice}
    (member : notice ∈ (page.define definitions).2.notices) : notice.isFatal = false := by
  induction definitions generalizing page with
  | nil => contradiction
  | cons entry rest ih =>
      obtain ⟨name, definition⟩ := entry
      obtain ⟨listed, others⟩ := List.forall_mem_cons.mp known
      cases outcome : (page.defineOne name definition).outcome with
      | error fault =>
          rw [define_of_stopped outcome] at member
          exact isFatal_of_mem_defineOne listed member
      | ok next =>
          rw [define_of_applied outcome] at member
          rcases List.mem_append.mp member with here | later
          · exact isFatal_of_mem_defineOne listed here
          · refine ih ?_ later
            rwa [keys_of_defineOne_ok outcome]

/-- How a page takes a map of definitions, up to the first one that it does not take. -/
structure StopsAtFirstFailure (page : Page) (definitions : Definitions) : Prop where
  applied : (∀ entry ∈ definitions, page.Takes entry) →
    (page.define definitions).2.outcome = .ok () ∧
    (∀ key, (page.define definitions).1.groups.find? key =
      (page.groups.find? key).map (playedBy definitions key)) ∧
    ∀ reordered : Definitions, reordered.Perm definitions →
      (page.define reordered).2.outcome = .ok () ∧
        (page.define reordered).1 = (page.define definitions).1
  unknown : ∀ before name definition after, definitions = before ++ (name, definition) :: after →
    (∀ entry ∈ before, page.Takes entry) → name ∉ page.groups.keys →
      (page.define before).2.outcome = .ok () ∧
      (∀ notice ∈ (page.define before).2.notices, notice.isFatal = false) ∧
      page.define definitions = ((page.define before).1,
        { notices := (page.define before).2.notices ++
            [.diagnostic (unknownAnimation name page.groups.keys)]
          outcome := .error (.unknownAnimation name page.groups.keys) })
  limited : ∀ before name definition after members,
    definitions = before ++ (name, definition) :: after →
    (∀ entry ∈ before, page.Takes entry) →
    page.groups.find? name = some members →
    Definition.IsUnplayable definition members.length →
      ∃ fault, fault.IsLimit ∧
        page.define definitions = ((page.define before).1,
          { notices := (page.define before).2.notices ++
              (Definition.compile definition (some members.length)).notices
            outcome := .error fault })

theorem defineOne_eq_of_unplayable (known : page.groups.find? name = some members)
    (unplayable : Definition.IsUnplayable definition members.length) :
    ∃ fault, fault.IsLimit ∧ page.defineOne name definition =
      { notices := (Definition.compile definition (some members.length)).notices
        outcome := .error fault } := by
  rcases Definition.compile_cases definition members.length with
    ⟨fits, -⟩ | ⟨-, fault, failed, limit⟩
  · exact absurd unplayable fits
  · refine ⟨fault, limit, ?_⟩
    rw [defineOne, known]
    simp only [Report.bind, failed]

theorem define_append_of_stopped {before : Definitions} {notices : List Notice} {fault : Fault}
    (applied : (page.define before).2.outcome = .ok ())
    (stopped : (page.define before).1.defineOne name definition =
      { notices := notices, outcome := .error fault }) (after : Definitions) :
    page.define (before ++ (name, definition) :: after) = ((page.define before).1,
      { notices := (page.define before).2.notices ++ notices, outcome := .error fault }) := by
  rw [define_append applied, define_of_stopped (congrArg Report.outcome stopped), stopped]

theorem define_stopsAtFirstFailure (page : Page) {definitions : Definitions}
    (distinct : (definitions.map (·.1)).Nodup) : StopsAtFirstFailure page definitions := by
  constructor
  · intro takes
    obtain ⟨played, applied⟩ := define_of_takes distinct takes
    refine ⟨applied, ?_, ?_⟩
    · intro key
      rw [played, find?_playAll page distinct]
    · intro reordered perm
      have names := (perm.map (·.1)).nodup_iff.mpr distinct
      obtain ⟨again, result⟩ := define_of_takes names fun entry member =>
        takes entry (perm.mem_iff.mp member)
      refine ⟨result, ?_⟩
      rw [again, played, playAll_perm perm distinct]
  · rintro before name definition after rfl takes missing
    rw [List.map_append] at distinct
    obtain ⟨-, applied⟩ := define_of_takes (List.nodup_append.mp distinct).1 takes
    have keys := (narrows_define page before).keys
    have listed : ∀ entry ∈ before, entry.1 ∈ page.groups.keys :=
      fun entry member => (takes entry member).listed
    refine ⟨applied, fun notice member => isFatal_of_mem_define listed member, ?_⟩
    rw [← keys] at missing ⊢
    have stopped := defineOne_eq_of_unknown (Keyed.lookup?_eq_none_iff.mpr missing) definition
    exact define_append_of_stopped applied stopped after
  · rintro before name definition after members rfl takes known unplayable
    rw [List.map_append] at distinct
    obtain ⟨names, -, apart⟩ := List.nodup_append.mp distinct
    obtain ⟨played, applied⟩ := define_of_takes names takes
    have fresh : name ∉ before.map (·.1) := by
      intro member
      exact apart name member name List.mem_cons_self rfl
    have untouched : (page.define before).1.groups.find? name = some members := by
      rw [played, find?_playAll page names, playedBy_of_not_mem fresh, known]
      rfl
    obtain ⟨fault, limit, stopped⟩ := defineOne_eq_of_unplayable untouched unplayable
    exact ⟨fault, limit, define_append_of_stopped applied stopped after⟩

end Page

theorem Page.define_stopsAtFirstFailure_of_unknown_name :
    ([("run", "1,0"), ("hero", "0"), ("jump", "")].map (·.1)).Nodup ∧
    ∃ page : Page, page.groups.keys = ["run", "jump"] ∧
      StopsAtFirstFailure page [("run", "1,0"), ("hero", "0"), ("jump", "")] ∧
      (page.define [("run", "1,0"), ("hero", "0"), ("jump", "")]).1.groups =
        [("run", [⟨1, { name := "run1" }⟩, ⟨0, { name := "run0" }⟩]),
          ("jump", [⟨2, { name := "jump0" }⟩])] ∧
      (page.define [("run", "1,0"), ("hero", "0"), ("jump", "")]).2.outcome =
        .error (.unknownAnimation "hero" ["run", "jump"]) := by
  have distinct : ([("run", "1,0"), ("hero", "0"), ("jump", "")].map (·.1)).Nodup := by decide
  let page : Page :=
    { frames := [{ name := "run0" }, { name := "run1" }, { name := "jump0" }]
      groups := [("run", [⟨0, { name := "run0" }⟩, ⟨1, { name := "run1" }⟩]),
        ("jump", [⟨2, { name := "jump0" }⟩])] }
  have stops := define_stopsAtFirstFailure page distinct
  have takes : page.Takes ("run", "1,0") := by
    constructor
    · decide
    · rintro members ⟨⟩ unplayable
      have terms : Definition.terms "1,0" = [⟨1, 1, 1⟩, ⟨0, 0, 1⟩] := by decide
      cases unplayable with
      | overlong term member long =>
          rw [terms] at member
          rcases List.mem_pair.mp member with rfl | rfl
          · exact absurd long (by decide)
          · exact absurd long (by decide)
      | unwritable index played outside large =>
          rw [terms] at played
          rcases List.mem_pair.mp played with rfl | rfl
          · exact absurd outside (by decide)
          · exact absurd outside (by decide)
  obtain ⟨-, -, result⟩ := stops.unknown [("run", "1,0")] "hero" "0" [("jump", "")] rfl
    (List.forall_mem_singleton.mpr takes) (by decide)
  refine ⟨distinct, page, rfl, stops, ?_, ?_⟩
  · rw [result]
    rfl
  · rw [result]
    rfl

end Flipbook
