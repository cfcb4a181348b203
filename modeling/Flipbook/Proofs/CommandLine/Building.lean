import Flipbook.CommandLine.Run
import Flipbook.Proofs.Keyed
import Flipbook.Proofs.PageCache.Sequence

/-!
The page that the arguments ask for. A name that is defined again keeps its place among the
definitions and takes the later text.
-/

namespace Flipbook.CommandLine

variable {arguments : Arguments} {results : Results} {order : Groups.Order} {fault : Fault}
  {pairs : List (String × String)}

/-- Whether definitions hold each name once, where it stood first, and with the text it had last. -/
structure Merges (pairs : List (String × String)) (definitions : Page.Definitions) : Prop where
  names : Keyed.keys definitions = (Keyed.keys pairs).eraseDups
  texts : ∀ before after name text, pairs = before ++ (name, text) :: after →
    name ∉ Keyed.keys after → Keyed.lookup? name definitions = some text

theorem merges_ofPairs (pairs : List (String × String)) : Merges pairs (Keyed.ofPairs pairs) where
  names := Keyed.keys_ofPairs pairs
  texts before after name text same last := by
    subst same
    exact Keyed.lookup?_ofPairs last text

theorem definitionPairs_cases (definitions : List (Option (String × String))) (index : Nat) :
    (∃ pairs, definitions = pairs.map some ∧ definitionPairs index definitions = .ok pairs) ∨
      (none ∈ definitions ∧ ∃ place, definitionPairs index definitions =
        .error (.entryLength place 0)) := by
  induction definitions generalizing index with
  | nil => exact .inl ⟨[], rfl, rfl⟩
  | cons first rest ih =>
      cases first with
      | none => exact .inr ⟨List.mem_cons_self, index, rfl⟩
      | some pair =>
          rcases ih (index + 1) with ⟨pairs, rfl, read⟩ | ⟨member, place, failed⟩
          · refine .inl ⟨pair :: pairs, rfl, ?_⟩
            rw [definitionPairs, read]
            rfl
          · refine .inr ⟨List.mem_cons_of_mem _ member, place, ?_⟩
            rw [definitionPairs, failed]
            rfl

theorem some_injective {α : Type} {left right : List α}
    (same : left.map some = right.map some) : left = right :=
  List.map_injective_iff.mpr (fun _ _ => Option.some.inj) same

variable [Limits]

def built (arguments : Arguments) (results : Results) (order : Groups.Order) :
    Except Fault Page := do
  let pairs ← definitionPairs 0 arguments.definitions
  (requestOf arguments (Keyed.ofPairs pairs)).sequential results order

/-- Whether nothing among the definitions keeps the machine from applying or refusing them. -/
structure IsApplicable (arguments : Arguments) (results : Results) (order : Groups.Order) :
    Prop where
  said : none ∉ arguments.definitions
  fits : ∀ pairs, arguments.definitions = pairs.map some →
    ¬ (requestOf arguments (Keyed.ofPairs pairs)).MeetsLimit results order

theorem built_of_read (read : definitionPairs 0 arguments.definitions = .ok pairs) :
    built arguments results order =
      (requestOf arguments (Keyed.ofPairs pairs)).sequential results order := by
  rw [built, read]
  rfl

theorem built_of_failed (failed : definitionPairs 0 arguments.definitions = .error fault) :
    built arguments results order = .error fault := by
  rw [built, failed]
  rfl

theorem exists_merges (arguments : Arguments) (results : Results) (order : Groups.Order)
    (pairs : List (String × String)) (given : arguments.definitions = pairs.map some) :
    ∃ definitions, Merges pairs definitions ∧ built arguments results order =
      (requestOf arguments definitions).sequential results order := by
  refine ⟨_, merges_ofPairs pairs, ?_⟩
  rcases definitionPairs_cases arguments.definitions 0 with
    ⟨others, again, read⟩ | ⟨member, -⟩
  · rw [some_injective (given.symm.trans again)]
    exact built_of_read read
  · rw [given] at member
    exact absurd member (by simp)

theorem built_cases (arguments : Arguments) (results : Results) (order : Groups.Order) :
    (∃ page, built arguments results order = .ok page ∧
        IsApplicable arguments results order) ∨
      ∃ fault, built arguments results order = .error fault ∧
        ((IsApplicable arguments results order ∧
            ((∃ identity cause, fault = .pageBuild identity cause) ∨
              ∃ name known, fault = .unknownAnimation name known)) ∨
          (¬ IsApplicable arguments results order ∧ isHandled fault = false)) := by
  unfold built
  rcases definitionPairs_cases arguments.definitions 0 with
    ⟨pairs, same, read⟩ | ⟨member, place, failed⟩
  · have applicable : ¬ (requestOf arguments (Keyed.ofPairs pairs)).MeetsLimit results order →
        IsApplicable arguments results order := by
      intro fits
      refine ⟨by simp [same], fun others again => ?_⟩
      rwa [some_injective (again.symm.trans same)]
    rw [read]
    simp only [bind, Except.bind]
    have ending := (requestOf arguments (Keyed.ofPairs pairs)).ending results order
    generalize (requestOf arguments (Keyed.ofPairs pairs)).sequential results order = outcome
      at ending
    cases ending with
    | page page fits => exact .inl ⟨page, rfl, applicable fits⟩
    | failed cause fits =>
        exact .inr ⟨_, rfl, .inl ⟨applicable fits, .inl ⟨_, cause, rfl⟩⟩⟩
    | unknown shows grouped listed missing fits =>
        exact .inr ⟨_, rfl, .inl ⟨applicable fits, .inr ⟨_, _, rfl⟩⟩⟩
    | @limited fault limit meets =>
        refine .inr ⟨fault, rfl, .inr ⟨fun given => given.fits pairs same meets, ?_⟩⟩
        cases fault <;> first | rfl | contradiction
  · rw [failed]
    exact .inr ⟨_, rfl, .inr ⟨fun given => given.said member, rfl⟩⟩

end Flipbook.CommandLine
