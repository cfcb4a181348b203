import Flipbook.Page.Definitions
import Flipbook.Proofs.Definition.Playback

/-!
Definitions applied one after the other. The first one that fails decides, by a name that no group
has or by a limit of the machine.
-/

namespace Flipbook.Page

variable {page next : Page} {name definition : String} [Limits]

def defined (page : Page) (definitions : Definitions) : Except Fault Page :=
  (page.define definitions).2.outcome.map fun _ => (page.define definitions).1

@[simp] theorem defined_nil (page : Page) : page.defined [] = .ok page := rfl

theorem define_of_applied (applied : (page.defineOne name definition).outcome = .ok next)
    (rest : Definitions) : page.define ((name, definition) :: rest) =
      ((next.define rest).1, { (next.define rest).2 with
        notices := (page.defineOne name definition).notices ++ (next.define rest).2.notices }) := by
  rw [define, applied]

theorem define_of_stopped {fault : Fault}
    (stopped : (page.defineOne name definition).outcome = .error fault) (rest : Definitions) :
    page.define ((name, definition) :: rest) =
      (page, { notices := (page.defineOne name definition).notices, outcome := .error fault }) := by
  rw [define, stopped]

theorem defined_cons (page : Page) (name definition : String) (rest : Definitions) :
    page.defined ((name, definition) :: rest) =
      (page.defineOne name definition).outcome.bind fun next => next.defined rest := by
  unfold defined
  cases outcome : (page.defineOne name definition).outcome with
  | error fault =>
      rw [define_of_stopped outcome]
      rfl
  | ok next =>
      rw [define_of_applied outcome]
      rfl

theorem defineOne_eq_of_unknown (unknown : page.groups.find? name = none) (definition : String) :
    page.defineOne name definition =
      { notices := [.diagnostic (unknownAnimation name page.groups.keys)]
        outcome := .error (.unknownAnimation name page.groups.keys) } := by
  rw [defineOne, unknown]
  rfl

theorem defineOne_of_unknown (unknown : page.groups.find? name = none) (definition : String) :
    (page.defineOne name definition).outcome =
      .error (.unknownAnimation name page.groups.keys) := by
  rw [defineOne_eq_of_unknown unknown]

theorem defineOne_of_known {members : List Placed}
    (known : page.groups.find? name = some members) (definition : String) :
    (page.defineOne name definition).outcome =
      (Definition.compile definition (some members.length)).outcome.map fun indices =>
        { page with groups := page.groups.replace name (play members indices) } := by
  unfold defineOne
  rw [known]
  simp only [Report.bind, Report.log, Report.ok]
  cases (Definition.compile definition (some members.length)).outcome with
  | error fault => rfl
  | ok indices => rfl

theorem eq_of_defineOne_ok (applied : (page.defineOne name definition).outcome = .ok next) :
    ∃ members indices, page.groups.find? name = some members ∧
      next = { page with groups := page.groups.replace name (play members indices) } := by
  cases known : page.groups.find? name with
  | none =>
      rw [defineOne_of_unknown known] at applied
      contradiction
  | some members =>
      rw [defineOne_of_known known] at applied
      cases compiled : (Definition.compile definition (some members.length)).outcome with
      | error fault =>
          rw [compiled] at applied
          contradiction
      | ok indices =>
          rw [compiled] at applied
          exact ⟨members, indices, rfl, (Except.ok.inj applied).symm⟩

theorem keys_of_defineOne_ok (applied : (page.defineOne name definition).outcome = .ok next) :
    next.groups.keys = page.groups.keys := by
  obtain ⟨members, indices, known, rfl⟩ := eq_of_defineOne_ok applied
  exact Keyed.keys_set known _

/-- Whether definitions reach one for a known group that plays more than fits. -/
inductive MeetsLimit : Page → Definitions → Prop
  | here {page : Page} {name definition : String} {rest : Definitions} {members : List Placed}
      (known : page.groups.find? name = some members)
      (unplayable : Definition.IsUnplayable definition members.length) :
      MeetsLimit page ((name, definition) :: rest)
  | later {page next : Page} {name definition : String} {rest : Definitions}
      (applied : (page.defineOne name definition).outcome = .ok next)
      (meets : MeetsLimit next rest) : MeetsLimit page ((name, definition) :: rest)

inductive Ending (page : Page) (definitions : Definitions) : Prop
  | applied (result : Page) (fits : ¬ MeetsLimit page definitions)
      (outcome : page.defined definitions = .ok result)
  | unknown (name : String) (fits : ¬ MeetsLimit page definitions)
      (listed : name ∈ definitions.map (·.1)) (missing : name ∉ page.groups.keys)
      (outcome : page.defined definitions = .error (.unknownAnimation name page.groups.keys))
  | limited (fault : Fault) (meets : MeetsLimit page definitions) (limit : fault.IsLimit)
      (outcome : page.defined definitions = .error fault)

theorem Ending.cons {rest : Definitions}
    (applied : (page.defineOne name definition).outcome = .ok next) (fits : ∀ members,
      page.groups.find? name = some members → ¬ Definition.IsUnplayable definition members.length)
    (ending : Ending next rest) : Ending page ((name, definition) :: rest) := by
  have following : page.defined ((name, definition) :: rest) = next.defined rest := by
    rw [defined_cons, applied]
    rfl
  have reached : MeetsLimit page ((name, definition) :: rest) → MeetsLimit next rest := by
    intro meets
    cases meets with
    | here known unplayable => exact absurd unplayable (fits _ known)
    | later again meets => exact Except.ok.inj (applied.symm.trans again) ▸ meets
  cases ending with
  | applied result fits outcome =>
      exact .applied result (fun meets => fits (reached meets)) (following.trans outcome)
  | unknown other fits listed missing outcome =>
      rw [keys_of_defineOne_ok applied] at missing outcome
      exact .unknown other (fun meets => fits (reached meets)) (List.mem_cons_of_mem _ listed)
        missing (following.trans outcome)
  | limited fault meets limit outcome =>
      exact .limited fault (.later applied meets) limit (following.trans outcome)

theorem ending (page : Page) (definitions : Definitions) : Ending page definitions := by
  induction definitions generalizing page with
  | nil => exact .applied page nofun (defined_nil page)
  | cons first rest ih =>
      obtain ⟨name, definition⟩ := first
      cases known : page.groups.find? name with
      | none =>
          have failed := defineOne_of_unknown known definition
          refine .unknown name ?_ List.mem_cons_self (Keyed.lookup?_eq_none_iff.mp known) ?_
          · intro meets
            cases meets with
            | here found _ => rw [known] at found; contradiction
            | later applied _ => rw [failed] at applied; contradiction
          · rw [defined_cons, failed]
            rfl
      | some members =>
          have defines := defineOne_of_known known definition
          rcases Definition.compile_cases definition members.length with
            ⟨fits, compiled⟩ | ⟨unplayable, fault, failed, limit⟩
          · rw [compiled] at defines
            refine .cons defines ?_ (ih _)
            intro others found
            rw [known] at found
            rwa [← Option.some.inj found]
          · rw [failed] at defines
            refine .limited fault (.here known unplayable) limit ?_
            rw [defined_cons, defines]
            rfl

end Flipbook.Page
