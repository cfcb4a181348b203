import Flipbook.Proofs.Definition.Continuation
import Flipbook.Proofs.Definition.Denotation

/-!
Terms that are revised after they were started. A machine that fails without a term to revise never
does so, whatever tokens it is given, and what a text says of a term is never taken for no stop.
-/

namespace Flipbook.Definition

def reviseLatest? (revise : Term → Term) : List Term → Option (List Term)
  | [] => none
  | term :: earlier => some (revise term :: earlier)

def Expecting.takeNumber? (expecting : Expecting) (value : Int) (terms : List Term) :
    Option (List Term) :=
  match expecting with
  | .start => some (⟨value, value, 1⟩ :: terms)
  | .stop => reviseLatest? (fun term => { term with stop := value }) terms
  | .repeats => reviseLatest? (fun term => { term with repeats := value }) terms
  | _ => some terms

/-- A step that fails where the latest term is to be revised and there is none. -/
def Machine.step? (machine : Machine) (token : Token) : Option Machine :=
  match machine.expecting.next? token.kind with
  | none => some { machine with rejected := (machine.expecting, token) :: machine.rejected }
  | some next => do
    let terms ←
      if token.kind = .number then machine.expecting.takeNumber? token.value machine.terms
      else some machine.terms
    some { machine with expecting := next, terms }

def Machine.run? (tokens : List Token) : Option Machine := tokens.foldlM Machine.step? {}

def Machine.Revises (machine : Machine) (token : Token) : Prop :=
  token.kind = .number ∧ machine.expecting ∈ [.stop, .repeats]

variable {machine : Machine} {token : Token} {term : Term}

theorem reviseLatest?_of_filled {terms : List Term} (filled : terms ≠ [])
    (revise : Term → Term) : reviseLatest? revise terms = some (reviseLatest revise terms) := by
  cases terms with
  | nil => contradiction
  | cons term earlier => rfl

theorem Machine.step?_of_filled (filled : machine.Revises token → machine.terms ≠ []) :
    machine.step? token = some (machine.step token) := by
  obtain ⟨expecting, given, rejected⟩ := machine
  unfold step? step
  cases fits : expecting.next? token.kind with
  | none => rfl
  | some next =>
      by_cases number : token.kind = .number
      · have taken : expecting.takeNumber? token.value given =
            some (expecting.takeNumber token.value given) := by
          cases expecting with
          | stop | repeats => exact reviseLatest?_of_filled (filled ⟨number, by simp⟩) _
          | _ => rfl
        simp only [number, if_true, taken]
        rfl
      · simp only [number, if_false]
        rfl

theorem Machine.step?_of_empty (revises : machine.Revises token) (empty : machine.terms = []) :
    machine.step? token = none := by
  obtain ⟨expecting, given, rejected⟩ := machine
  obtain ⟨number, waits⟩ := revises
  obtain rfl : given = [] := empty
  simp only [List.mem_cons, List.not_mem_nil, or_false] at waits
  rcases waits with rfl | rfl <;> simp [step?, number, Expecting.next?, Expecting.takeNumber?,
    reviseLatest?]

theorem Machine.step?_eq_none_iff :
    machine.step? token = none ↔ machine.Revises token ∧ machine.terms = [] := by
  refine ⟨fun failed => ?_, fun given => step?_of_empty given.1 given.2⟩
  by_contra sound
  rw [step?_of_filled fun revises empty => sound ⟨revises, empty⟩] at failed
  contradiction

theorem Machine.IsStarted.filled (started : machine.IsStarted) (revises : machine.Revises token) :
    machine.terms ≠ [] := by
  refine started ?_
  rintro start
  have waits := revises.2
  rw [start] at waits
  simp at waits

theorem Machine.IsStarted.foldlM_step? (started : machine.IsStarted) (tokens : List Token) :
    tokens.foldlM Machine.step? machine = some (tokens.foldl Machine.step machine) := by
  induction tokens generalizing machine with
  | nil => rfl
  | cons token rest ih =>
      rw [List.foldlM_cons, Machine.step?_of_filled started.filled, List.foldl_cons]
      exact ih (started.step token)

theorem Machine.IsStarted.foldl (started : machine.IsStarted) (tokens : List Token) :
    (tokens.foldl Machine.step machine).IsStarted := by
  induction tokens generalizing machine with
  | nil => exact started
  | cons token rest ih => exact ih (started.step token)

theorem Machine.isStarted_new : Machine.IsStarted {} := fun later => absurd rfl later

theorem Term.IsNatural.stop_ne (natural : term.IsNatural) : term.stop ≠ noStop := by
  have least := natural.stop
  rw [noStop]
  omega

theorem Term.IsNatural.isHold_iff (natural : term.IsNatural) :
    term.isHold = true ↔ term.stop = term.start := by
  simp [isHold, natural.stop_ne]

/-- Whatever tokens a machine is given, it never revises a term that is not there. Of a text it
reads nothing below zero, so only a term that stops at its start is held. -/
theorem revises_startedTerms :
    (∀ (machine : Machine) (token : Token),
      machine.step? token = none ↔ machine.Revises token ∧ machine.terms = []) ∧
    (∀ tokens, Machine.run? tokens = some (Machine.run tokens)) ∧
    (∀ before token, (Machine.run before).Revises token → (Machine.run before).terms ≠ []) ∧
    ∀ definition, ∀ term ∈ terms definition,
      term.IsNatural ∧ term.stop ≠ noStop ∧ (term.isHold = true ↔ term.stop = term.start) := by
  refine ⟨fun _ _ => Machine.step?_eq_none_iff, Machine.isStarted_new.foldlM_step?, ?_, ?_⟩
  · intro before token
    exact (Machine.isStarted_new.foldl before).filled
  · intro definition term member
    have natural := isNatural_terms definition term member
    exact ⟨natural, natural.stop_ne, natural.isHold_iff⟩

def misplacedTokens : List Token :=
  [⟨.closeParen, 8, 5⟩, ⟨.number, -3, 0⟩, ⟨.hyphen, -1, 0⟩, ⟨.openParen, 0, 1⟩]

theorem revises_startedTerms_of_misplaced :
    (Machine.run misplacedTokens).Revises ⟨.number, -7, 2⟩ ∧
      (Machine.run misplacedTokens).terms ≠ [] ∧
      (⟨3, 7, 1⟩ : Term) ∈ terms ")3-(7" ∧ (⟨3, 7, 1⟩ : Term).stop ≠ noStop := by
  have revises : (Machine.run misplacedTokens).Revises ⟨.number, -7, 2⟩ := ⟨rfl, by decide⟩
  have member : (⟨3, 7, 1⟩ : Term) ∈ terms ")3-(7" := by decide
  exact ⟨revises, revises_startedTerms.2.2.1 _ _ revises, member,
    (revises_startedTerms.2.2.2 _ _ member).2.1⟩

end Flipbook.Definition
