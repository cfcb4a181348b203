import Flipbook.Page.Selection
import Flipbook.Proofs.Frame.Groups
import Flipbook.Proofs.Page.Definitions

/-!
A page in use, with queries and definitions in any order. Its frames, its texture and the keys of
its groups stay, and groups lose members but never gain one.
-/

namespace Flipbook.Page

inductive Call
  | query (selector : Value)
  | define (definitions : Definitions)

structure Narrows (page next : Page) : Prop where
  frames : next.frames = page.frames
  texture : next.texture = page.texture
  keys : next.groups.keys = page.groups.keys
  members : ∀ (key : String) (left : List Placed), next.groups.find? key = some left →
    ∃ members, page.groups.find? key = some members ∧ left ⊆ members

variable {page next last : Page} {name definition : String}

theorem Narrows.refl (page : Page) : Narrows page page :=
  ⟨rfl, rfl, rfl, fun _ left found => ⟨left, found, List.Subset.refl left⟩⟩

theorem Narrows.trans (first : Narrows page next) (second : Narrows next last) :
    Narrows page last := by
  refine ⟨second.frames.trans first.frames, second.texture.trans first.texture,
    second.keys.trans first.keys, ?_⟩
  intro key left found
  obtain ⟨between, known, fewer⟩ := second.members key left found
  obtain ⟨members, before, some⟩ := first.members key between known
  exact ⟨members, before, List.Subset.trans fewer some⟩

theorem play_subset (members : List Placed) (indices : List Int) :
    play members indices ⊆ members := by
  intro placed played
  obtain ⟨index, -, found⟩ := List.mem_filterMap.mp played
  split at found
  next => contradiction
  next => exact List.mem_of_getElem? (by simpa using found)

theorem Narrows.find?_nil {key : String} (narrows : Narrows page next)
    (empty : page.groups.find? key = some []) : next.groups.find? key = some [] := by
  have listed : key ∈ next.groups.keys := by
    rw [narrows.keys]
    refine Decidable.byContradiction fun missing => ?_
    rw [Groups.find?, Keyed.lookup?_eq_none_iff.mpr missing] at empty
    contradiction
  cases found : next.groups.find? key with
  | none => exact absurd listed (Keyed.lookup?_eq_none_iff.mp found)
  | some left =>
      obtain ⟨members, known, fewer⟩ := narrows.members key left found
      rw [empty] at known
      rw [← Option.some.inj known] at fewer
      rw [List.subset_nil.mp fewer]

section

variable [Limits]

/-- The page after a call, with what the call gives. Definitions that fail leave behind what was
applied before. -/
def call (page : Page) : Call → Page × Report (List Placed)
  | .query selector => (page, page.bySelector selector)
  | .define definitions =>
    let (next, report) := page.define definitions
    (next, report.bind fun _ => .ok [])

def after (page : Page) (calls : List Call) : Page :=
  calls.foldl (fun page call => (page.call call).1) page

theorem narrows_of_defineOne_ok (applied : (page.defineOne name definition).outcome = .ok next) :
    Narrows page next := by
  have keys := keys_of_defineOne_ok applied
  obtain ⟨members, indices, known, rfl⟩ := eq_of_defineOne_ok applied
  refine ⟨rfl, rfl, keys, ?_⟩
  intro key left found
  by_cases same : name = key
  · subst key
    rw [Groups.find?, Groups.replace, Keyed.lookup?_set_self] at found
    exact ⟨members, known, Option.some.inj found ▸ play_subset members indices⟩
  · rw [Groups.find?, Groups.replace, Keyed.lookup?_set_of_ne same] at found
    exact ⟨left, found, List.Subset.refl left⟩

theorem narrows_define (page : Page) (definitions : Definitions) :
    Narrows page (page.define definitions).1 := by
  induction definitions generalizing page with
  | nil => exact .refl page
  | cons first rest ih =>
      obtain ⟨name, definition⟩ := first
      cases outcome : (page.defineOne name definition).outcome with
      | error fault =>
          rw [define_of_stopped outcome]
          exact .refl page
      | ok next =>
          rw [define_of_applied outcome]
          exact (narrows_of_defineOne_ok outcome).trans (ih next)

theorem narrows_call (page : Page) (call : Call) : Narrows page (page.call call).1 := by
  cases call with
  | query selector => exact .refl page
  | define definitions => exact narrows_define page definitions

theorem narrows_after (page : Page) (calls : List Call) : Narrows page (page.after calls) := by
  induction calls generalizing page with
  | nil => exact .refl page
  | cons call rest ih => exact (narrows_call page call).trans (ih _)

theorem after_append (page : Page) (earlier later : List Call) :
    page.after (earlier ++ later) = (page.after earlier).after later := by
  rw [after, List.foldl_append]
  rfl

structure Lasts (frames : List Frame) (texture : Value) (page : Page) (earlier later : List Call) :
    Prop where
  frames_eq : (page.after earlier).frames = frames
  texture_eq : (page.after earlier).texture = texture
  keys_eq : (page.after earlier).groups.keys = page.groups.keys
  members : ∀ (key : String) (left : List Placed),
    (page.after earlier).groups.find? key = some left → ∃ members,
      page.groups.find? key = some members ∧ ∀ placed ∈ left, placed ∈ members ∧
        frames[placed.position]? = some placed.frame ∧ FrameName.key placed.frame.name = key
  emptied : ∀ key, (page.after earlier).groups.find? key = some [] →
    (page.after (earlier ++ later)).groups.find? key = some []

theorem lasts_of_ofFrames {frames : List Frame} {order : Groups.Order} {texture : Value}
    (made : ofFrames frames order texture = .ok page) (earlier later : List Call) :
    Lasts frames texture page earlier later := by
  obtain ⟨groups, grouped, rfl⟩ : ∃ groups, Groups.ofFrames frames order = .ok groups ∧
      page = { frames, groups, texture } := by
    cases grouped : Groups.ofFrames frames order with
    | error fault => simp [ofFrames, grouped, bind, Except.bind] at made
    | ok groups =>
        simp only [ofFrames, grouped, bind, Except.bind, pure, Except.pure, Except.ok.injEq] at made
        exact ⟨groups, rfl, made.symm⟩
  have narrows := narrows_after { frames, groups, texture } earlier
  refine ⟨narrows.frames, narrows.texture, narrows.keys, ?_, ?_⟩
  · intro key left found
    obtain ⟨members, known, fewer⟩ := narrows.members key left found
    refine ⟨members, known, fun placed among => ⟨fewer among, ?_⟩⟩
    have member := fewer among
    rw [Groups.find?_ofFrames grouped known, List.mem_mergeSort, List.mem_filter] at member
    obtain ⟨present, own⟩ := member
    simp only [Groups.isMember, Bool.and_eq_true, decide_eq_true_eq] at own
    exact ⟨Groups.mem_placeAll_iff.mp present, own.2⟩
  · intro key empty
    rw [after_append]
    exact (narrows_after _ later).find?_nil empty

/-- Frames whose names have no more digits than a numeral may have become a page, and it lasts
through all calls. -/
theorem lasts_through_calls {frames : List Frame}
    (short : ∀ frame ∈ frames, ¬ FrameName.IsOverlong frame.name) (order : Groups.Order)
    (texture : Value) :
    ∃ page, ofFrames frames order texture = .ok page ∧
      ∀ earlier later, Lasts frames texture page earlier later := by
  rcases Groups.ofFrames_cases frames order with
    ⟨groups, grouped, -⟩ | ⟨frame, member, overlong, -⟩
  · have made : ofFrames frames order texture = .ok { frames, groups, texture } := by
      rw [ofFrames, grouped]
      rfl
    exact ⟨_, made, lasts_of_ofFrames made⟩
  · exact absurd overlong (short frame member)

end

theorem lasts_of_failed_definition :
    (∀ frame ∈ [({ name := "run1" } : Frame), { name := "run0" }],
      ¬ FrameName.IsOverlong frame.name) ∧
    ∃ page, ofFrames [{ name := "run1" }, { name := "run0" }] .byName .none = .ok page ∧
      Lasts [{ name := "run1" }, { name := "run0" }] .none page [.define [("run", "1,7")]]
        [.query (.text "run"), .define [("run", "7"), ("jump", "0"), ("run", "0")]] := by
  have short : ∀ frame ∈ [({ name := "run1" } : Frame), { name := "run0" }],
      ¬ FrameName.IsOverlong frame.name := by decide
  obtain ⟨page, made, all⟩ := lasts_through_calls short .byName .none
  exact ⟨short, page, made, all _ _⟩

end Flipbook.Page
