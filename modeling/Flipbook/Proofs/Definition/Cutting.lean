import Flipbook.Proofs.Definition.Recovery

/-!
Definitions that are cut short. What was read of the beginning stays as the rest is read, but that
the latest term keeps no more than its first frame.
-/

namespace Flipbook.Definition

inductive Extends : List Term → List Term → Prop
  | fresh (later : List Term) : Extends [] later
  | revised {latest revision : Term} (same : revision.start = latest.start)
      (earlier later : List Term) : Extends (latest :: earlier) (later ++ revision :: earlier)

variable {given others following : List Term}

theorem Extends.refl (given : List Term) : Extends given given := by
  cases given with
  | nil => exact .fresh []
  | cons latest earlier => exact .revised rfl earlier []

theorem Extends.trans (first : Extends given others) (second : Extends others following) :
    Extends given following := by
  cases first with
  | fresh => exact .fresh following
  | revised same earlier later =>
      cases later with
      | nil =>
          cases second with
          | revised again _ further => exact .revised (again.trans same) earlier further
      | cons newest later =>
          cases second with
          | @revised _ revision again _ further =>
              have extended := Extends.revised same earlier (further ++ revision :: later)
              rwa [List.append_assoc] at extended

theorem Extends.dropLast_reverse_prefix (extended : Extends given others) :
    given.reverse.dropLast <+: others.reverse := by
  cases extended with
  | fresh => exact List.nil_prefix
  | @revised latest revision same earlier later =>
      rw [List.reverse_cons, List.dropLast_concat, List.reverse_append, List.reverse_cons,
        List.append_assoc]
      exact List.prefix_append ..

theorem Extends.map_start_prefix (extended : Extends given others) :
    given.reverse.map (·.start) <+: others.reverse.map (·.start) := by
  cases extended with
  | fresh => exact List.nil_prefix
  | revised same earlier later =>
      rw [List.reverse_cons, List.reverse_append, List.reverse_cons, List.map_append,
        List.map_append, List.map_append, List.map_singleton, List.map_singleton, same]
      exact List.prefix_append ..

theorem Expecting.extends_takeNumber (expecting : Expecting) (value : Int) (given : List Term) :
    Extends given (expecting.takeNumber value given) := by
  cases expecting with
  | start =>
      cases given with
      | nil => exact .fresh _
      | cons latest earlier => exact .revised rfl earlier [⟨value, value, 1⟩]
  | stop | repeats =>
      cases given with
      | nil => exact .fresh []
      | cons latest earlier => exact .revised (by rfl) earlier []
  | afterStart | afterStop | closing | separator => exact .refl given

theorem Machine.extends_step (machine : Machine) (token : Token) :
    Extends machine.terms (machine.step token).terms := by
  cases fits : machine.expecting.next? token.kind with
  | none =>
      rw [step_of_misfit fits]
      exact .refl _
  | some next =>
      rw [step_of_fits fits]
      dsimp only
      split
      · exact machine.expecting.extends_takeNumber token.value machine.terms
      · exact .refl _

theorem Machine.extends_foldl (machine : Machine) (rest : List Token) :
    Extends machine.terms (rest.foldl Machine.step machine).terms := by
  induction rest generalizing machine with
  | nil => exact .refl _
  | cons token rest ih => exact (machine.extends_step token).trans (ih (machine.step token))

theorem Machine.rejected_suffix_step (machine : Machine) (token : Token) :
    machine.rejected <:+ (machine.step token).rejected := by
  cases fits : machine.expecting.next? token.kind with
  | none =>
      rw [step_of_misfit fits]
      exact List.suffix_cons ..
  | some next =>
      have same : (machine.step token).rejected = machine.rejected := by rw [step_of_fits fits]
      exact same ▸ List.suffix_refl _

theorem Machine.rejected_suffix_foldl (machine : Machine) (rest : List Token) :
    machine.rejected <:+ (rest.foldl Machine.step machine).rejected := by
  induction rest generalizing machine with
  | nil => exact List.suffix_refl _
  | cons token rest ih =>
      exact (machine.rejected_suffix_step token).trans (ih (machine.step token))

/-- What a longer list of tokens has of what was read of its beginning. -/
structure Keeps (given whole : List Token) (definition : String) : Prop where
  settled : (termsOfTokens given).dropLast <+: termsOfTokens whole
  started : (termsOfTokens given).map (·.start) <+: (termsOfTokens whole).map (·.start)
  reported : syntaxDiagnostics given definition <+: syntaxDiagnostics whole definition

/-- Every term but the latest is final, and no term or report is withdrawn. -/
theorem keeps_append (given rest : List Token) (definition : String) :
    Keeps given (given ++ rest) definition := by
  have extended := (Machine.run given).extends_foldl rest
  have suffix := (Machine.run given).rejected_suffix_foldl rest
  rw [← run_append] at extended suffix
  refine ⟨extended.dropLast_reverse_prefix, extended.map_start_prefix, ?_⟩
  exact (List.reverse_prefix.mpr suffix).map _

end Flipbook.Definition
