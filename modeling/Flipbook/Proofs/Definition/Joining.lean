import Flipbook.Proofs.Definition.Continuation
import Flipbook.Proofs.Definition.Denotation
import Flipbook.Proofs.Report

/-!
Definitions joined by a comma. Each is read and played as if it stood alone, unless the first one
ends within a part that no comma can end.
-/

namespace Flipbook

theorem Diagnostic.moved_moved (first second : String) (near far : Nat) (diagnostic : Diagnostic) :
    (diagnostic.moved first near).moved second far = diagnostic.moved second (near + far) := by
  simp [moved, Function.comp_def, Int.add_assoc]

namespace Definition

def commaAt (offset : Nat) : Token := { kind := .comma, position := offset }

variable {first : String} {count : Option Int} {machine : Machine}

theorem tokens_join (first second : String) : tokens (first ++ "," ++ second) =
    tokens first ++ commaAt first.length ::
      (tokens second).map (Token.moved (first.length + 1)) := by
  have comma : tokens "," = [commaAt 0] := by decide
  rw [String.append_assoc, tokens_append_mark (c := ',') (by decide) (by decide), comma]
  simp [commaAt, Token.moved]

theorem tokenDiagnostics_join (first second : String) :
    tokenDiagnostics (first ++ "," ++ second) =
      (tokenDiagnostics first).map (Diagnostic.moved (first ++ "," ++ second) 0) ++
        (tokenDiagnostics second).map
          (Diagnostic.moved (first ++ "," ++ second) (first.length + 1)) := by
  have comma : tokenDiagnostics "," = [] := by decide
  have length : (first ++ ",").length = first.length + 1 := String.length_append ..
  rw [tokenDiagnostics_append, tokenDiagnostics_append, comma, List.map_nil, List.append_nil,
    List.map_map, length]
  congr 2
  funext diagnostic
  exact Diagnostic.moved_moved ..

def lastState (definition : String) : Expecting := (Machine.run (tokens definition)).expecting

theorem Machine.step_comma (restarts : machine.expecting ∉ [.stop, .repeats, .closing])
    (offset : Nat) : machine.step (commaAt offset) =
      { machine with
        expecting := .start
        rejected :=
          (if machine.expecting = .start then [(.start, commaAt offset)] else []) ++
            machine.rejected } := by
  obtain ⟨expecting, given, rejected⟩ := machine
  cases expecting with
  | start | afterStart | afterStop | separator => rfl
  | stop | repeats | closing => exact absurd (by simp) restarts

def emptyTerm (definition : String) : List (Expecting × Token) :=
  if lastState definition = .start then [(.start, commaAt definition.length)] else []

theorem reverse_emptyTerm (definition : String) :
    (emptyTerm definition).reverse = emptyTerm definition := by
  unfold emptyTerm
  split <;> rfl

/-- The second text is read by a machine of its own, before whose terms those of the first stand. -/
theorem run_join (restarts : lastState first ∉ [.stop, .repeats, .closing]) (second : String) :
    Machine.run (tokens (first ++ "," ++ second)) =
      (Machine.run ((tokens second).map (Token.moved (first.length + 1)))).after
        (Machine.run (tokens first)).terms
        (emptyTerm first ++ (Machine.run (tokens first)).rejected) := by
  have fresh : Machine.IsStarted {} := fun later => absurd rfl later
  have begun : (Machine.run (tokens first)).step (commaAt first.length) =
      Machine.after {} (Machine.run (tokens first)).terms
        (emptyTerm first ++ (Machine.run (tokens first)).rejected) := by
    rw [lastState] at restarts
    rw [Machine.step_comma restarts]
    rfl
  rw [tokens_join, run_append, List.foldl_cons, begun, fresh.foldl_after]
  rfl

theorem matches_moved (given : List Token) (distance : Nat) :
    (Machine.run given).Matches (fun former latter => latter = former.moved distance)
      (Machine.run (given.map (Token.moved distance))) := by
  refine Machine.matches_run ?_ ?_
  · rintro former _ rfl
    rfl
  · rw [List.forall₂_map_right_iff]
    exact List.forall₂_same.mpr fun _ _ => rfl

theorem terms_join (restarts : lastState first ∉ [.stop, .repeats, .closing]) (second : String) :
    terms (first ++ "," ++ second) = terms first ++ terms second := by
  rw [terms, termsOfTokens, run_join restarts, Machine.after, List.reverse_append,
    ← (matches_moved (tokens second) _).terms]
  rfl

theorem syntaxDiagnostics_moved (given : List Token) (definition whole : String)
    (distance : Nat) : syntaxDiagnostics (given.map (Token.moved distance)) whole =
      (syntaxDiagnostics given definition).map (Diagnostic.moved whole distance) := by
  rw [syntaxDiagnostics, syntaxDiagnostics, List.map_map]
  refine ((matches_moved given distance).map_rejected ?_).symm
  rintro expecting former _ rfl
  rfl

theorem syntaxDiagnostics_join (restarts : lastState first ∉ [.stop, .repeats, .closing])
    (second : String) :
    syntaxDiagnostics (tokens (first ++ "," ++ second)) (first ++ "," ++ second) =
      (syntaxDiagnostics (tokens first) first).map (Diagnostic.moved (first ++ "," ++ second) 0) ++
        (emptyTerm first).map (fun (expecting, token) =>
          syntaxError (first ++ "," ++ second) expecting token) ++
        (syntaxDiagnostics (tokens second) second).map
          (Diagnostic.moved (first ++ "," ++ second) (first.length + 1)) := by
  have there : (tokens first).map (Token.moved 0) = tokens first :=
    (List.map_congr_left fun token _ => token.moved_zero).trans (List.map_id' _)
  rw [← syntaxDiagnostics_moved, ← syntaxDiagnostics_moved, there]
  simp only [syntaxDiagnostics, run_join restarts, Machine.after, List.reverse_append,
    List.map_append, reverse_emptyTerm]

theorem termDiagnostics_join (restarts : lastState first ∉ [.stop, .repeats, .closing])
    (second : String) : termDiagnostics (first ++ "," ++ second) =
      (tokenDiagnostics first).map (Diagnostic.moved (first ++ "," ++ second) 0) ++
        (tokenDiagnostics second).map
          (Diagnostic.moved (first ++ "," ++ second) (first.length + 1)) ++
        (syntaxDiagnostics (tokens first) first).map
          (Diagnostic.moved (first ++ "," ++ second) 0) ++
        (if lastState first = .start then
          [syntaxError (first ++ "," ++ second) .start (commaAt first.length)]
        else []) ++
        (syntaxDiagnostics (tokens second) second).map
          (Diagnostic.moved (first ++ "," ++ second) (first.length + 1)) := by
  rw [termDiagnostics, tokenDiagnostics_join, syntaxDiagnostics_join restarts, emptyTerm]
  split <;> simp

variable {given others : List Term} {indices : List Int}

theorem playback_append (given others : List Term) :
    playback (given ++ others) = playback given ++ playback others :=
  List.flatMap_append

theorem outsideReports_append (count : Option Int) (former latter : List Int) :
    outsideReports count (former ++ latter) =
      outsideReports count former ++ outsideReports count latter := by
  cases count with
  | none => rfl
  | some limit => simp [outsideReports]

theorem Machine.length_terms_of_stuck (stuck : machine.expecting ∈ [.stop, .repeats, .closing])
    (offset : Nat) (value position : Int) :
    ((machine.step (commaAt offset)).step ⟨.number, value, position⟩).terms.length =
      machine.terms.length := by
  obtain ⟨expecting, given, rejected⟩ := machine
  cases expecting with
  | start | afterStart | afterStop | separator => simp at stuck
  | stop | repeats => cases given <;> rfl
  | closing => rfl

variable [Limits]

theorem arePlayable_append_iff : ArePlayable (given ++ others) count ↔
    ArePlayable given count ∧ ArePlayable others count := by
  constructor
  · rintro ⟨fit, writable⟩
    rw [playback_append] at writable
    exact ⟨⟨fun term member => fit term (List.mem_append_left _ member),
        fun limit known index member => writable limit known index (List.mem_append_left _ member)⟩,
      ⟨fun term member => fit term (List.mem_append_right _ member),
        fun limit known index member =>
          writable limit known index (List.mem_append_right _ member)⟩⟩
  · rintro ⟨⟨fit, writable⟩, ⟨fits, writables⟩⟩
    refine ⟨fun term member => ?_, fun limit known index member => ?_⟩
    · exact (List.mem_append.mp member).elim (fit term) (fits term)
    · rw [playback_append] at member
      exact (List.mem_append.mp member).elim (writable limit known index)
        (writables limit known index)

theorem outcome_expand_append_eq_ok_iff :
    (expand (given ++ others) count).outcome = .ok indices ↔
      ∃ former latter, (expand given count).outcome = .ok former ∧
        (expand others count).outcome = .ok latter ∧ indices = former ++ latter := by
  simp only [outcome_expand_eq_ok_iff, arePlayable_append_iff, playback_append]
  constructor
  · rintro ⟨⟨first, second⟩, rfl⟩
    exact ⟨_, _, ⟨first, rfl⟩, ⟨second, rfl⟩, rfl⟩
  · rintro ⟨_, _, ⟨first, rfl⟩, ⟨second, rfl⟩, rfl⟩
    exact ⟨⟨first, second⟩, rfl⟩

theorem diagnostics_compile_of_ok {definition : String}
    (compiled : (compile definition count).outcome = .ok indices) :
    Notice.diagnostics (compile definition count).notices =
      termDiagnostics definition ++ outsideReports count indices := by
  rw [outcome_compile] at compiled
  obtain ⟨playable, rfl⟩ := outcome_expand_eq_ok_iff.mp compiled
  rw [diagnostics_compile, expand_of_playable playable, Notice.diagnostics_map]

structure Joins (first second whole : String) : Prop where
  terms_eq : terms whole = terms first ++ terms second
  diagnostics_eq : termDiagnostics whole =
    (tokenDiagnostics first).map (Diagnostic.moved whole 0) ++
      (tokenDiagnostics second).map (Diagnostic.moved whole (first.length + 1)) ++
      (syntaxDiagnostics (tokens first) first).map (Diagnostic.moved whole 0) ++
      (if lastState first = .start then [syntaxError whole .start (commaAt first.length)]
      else []) ++
      (syntaxDiagnostics (tokens second) second).map (Diagnostic.moved whole (first.length + 1))
  plays : ∀ count indices, (compile whole count).outcome = .ok indices ↔
    ∃ former latter, (compile first count).outcome = .ok former ∧
      (compile second count).outcome = .ok latter ∧ indices = former ++ latter
  reports : ∀ count former latter, (compile first count).outcome = .ok former →
    (compile second count).outcome = .ok latter →
      Notice.diagnostics (compile whole count).notices =
        termDiagnostics whole ++ outsideReports count former ++ outsideReports count latter

theorem joins_of_restarts (restarts : lastState first ∉ [.stop, .repeats, .closing])
    (second : String) : Joins first second (first ++ "," ++ second) := by
  have plays : ∀ count indices, (compile (first ++ "," ++ second) count).outcome = .ok indices ↔
      ∃ former latter, (compile first count).outcome = .ok former ∧
        (compile second count).outcome = .ok latter ∧ indices = former ++ latter := by
    intro count indices
    simp only [outcome_compile, terms_join restarts]
    exact outcome_expand_append_eq_ok_iff
  refine ⟨terms_join restarts second, termDiagnostics_join restarts second, plays, ?_⟩
  intro count former latter played continued
  have compiled := (plays count _).mpr ⟨former, latter, played, continued, rfl⟩
  rw [diagnostics_compile_of_ok compiled, outsideReports_append, List.append_assoc]

/-- Two definitions join at a comma wherever the first one does not wait for a last frame, for
repetitions or for the parenthesis after them. -/
theorem joins_iff (first : String) :
    (∀ second, Joins first second (first ++ "," ++ second)) ↔
      lastState first ∉ [.stop, .repeats, .closing] := by
  refine ⟨fun joins stuck => ?_, joins_of_restarts⟩
  have number : tokens "0" = [⟨.number, 0, 0⟩] := by decide
  have stays : (terms (first ++ "," ++ "0")).length = (terms first).length := by
    rw [terms, terms, termsOfTokens, termsOfTokens, List.length_reverse, List.length_reverse,
      tokens_join, number, run_append]
    exact Machine.length_terms_of_stuck stuck ..
  have single : terms "0" = [⟨0, 0, 1⟩] := by decide
  have longer := congrArg List.length (joins "0").terms_eq
  rw [stays, single, List.length_append, List.length_singleton] at longer
  omega

end Definition

end Flipbook
