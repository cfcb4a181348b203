import Flipbook.Proofs.Definition.Continuation
import Flipbook.Proofs.Definition.Playback

/-!
Definitions with more or fewer spaces, and with spaces for characters that they cannot have. They
are read and played the same, and no report is lost but those on the characters that were replaced.
-/

namespace Flipbook

def Diagnostic.unplaced (diagnostic : Diagnostic) : Diagnostic :=
  { diagnostic with source := none, offset := none }

def Diagnostic.isAt (offsets : List Nat) (diagnostic : Diagnostic) : Bool :=
  offsets.any fun offset : Nat => diagnostic.offset = some (offset : Int)

namespace Definition

def blanked (offsets : List Nat) (offset : Nat) (c : Char) : Char :=
  if offset ∈ offsets ∧ isAccepted c = false then ' ' else c

def blankAt (offsets : List Nat) (definition : String) : String :=
  String.ofList (definition.toList.mapIdx (blanked offsets))

/-- What comes of a definition as spaces are put in and taken out one by one, none of them between
two digits. -/
inductive Respaced (definition : String) : String → Prop
  | same : Respaced definition definition
  | inserted (before after : String) (apart : AreApart before after)
      (respaced : Respaced definition (before ++ after)) :
      Respaced definition (before ++ " " ++ after)
  | deleted (before after : String) (apart : AreApart before after)
      (respaced : Respaced definition (before ++ " " ++ after)) :
      Respaced definition (before ++ after)

variable {c : Char} {first second before after definition edited : String} {offsets : List Nat}

theorem contents_append (apart : AreApart first second) :
    contents (first ++ second) = contents first ++ contents second := by
  rw [contents, tokens_append apart, List.map_append, List.map_map]
  rfl

theorem contents_space (apart : AreApart before after) :
    contents (before ++ " " ++ after) = contents (before ++ after) := by
  have blank : tokens " " = [] := by decide
  rw [contents_append apart, contents, String.append_assoc,
    tokens_append_mark (c := ' ') (by decide) (by decide), blank, List.map_nil, List.nil_append,
    List.map_append, List.map_map]
  rfl

theorem unplaced_tokenDiagnostics_append (first second : String) :
    (tokenDiagnostics (first ++ second)).map Diagnostic.unplaced =
      (tokenDiagnostics first).map Diagnostic.unplaced ++
        (tokenDiagnostics second).map Diagnostic.unplaced := by
  rw [tokenDiagnostics_append, List.map_append, List.map_map, List.map_map]
  rfl

theorem Respaced.contents_eq (respaced : Respaced definition edited) :
    contents edited = contents definition := by
  induction respaced with
  | same => rfl
  | inserted before after apart _ ih => rw [contents_space apart, ih]
  | deleted before after apart _ ih => rw [← contents_space apart, ih]

theorem Respaced.unplaced_tokenDiagnostics (respaced : Respaced definition edited) :
    (tokenDiagnostics edited).map Diagnostic.unplaced =
      (tokenDiagnostics definition).map Diagnostic.unplaced := by
  have blank : tokenDiagnostics " " = [] := by decide
  induction respaced with
  | same => rfl
  | inserted before after _ _ ih =>
      rw [unplaced_tokenDiagnostics_append] at ih
      rw [unplaced_tokenDiagnostics_append, unplaced_tokenDiagnostics_append, blank, List.map_nil,
        List.append_nil, ih]
  | deleted before after _ _ ih =>
      rw [unplaced_tokenDiagnostics_append, unplaced_tokenDiagnostics_append, blank, List.map_nil,
        List.append_nil] at ih
      rw [unplaced_tokenDiagnostics_append, ih]

theorem Scan.step_of_refused (refused : isAccepted c = false) (scan : Scan) :
    scan.step ' ' = scan.step c := by
  obtain ⟨⟨digit, mark⟩, -⟩ : (Text.asciiDigit? c = none ∧ punctuation? c = none) ∧ c ≠ ' ' := by
    simpa [isAccepted] using refused
  have blank : Text.asciiDigit? ' ' = none ∧ punctuation? ' ' = none := by decide
  simp [step, digit, mark, blank]

theorem foldl_mapIdx {α β : Type} {step : β → α → β} {revise : Nat → α → α}
    (same : ∀ state offset x, step state (revise offset x) = step state x) (list : List α)
    (state : β) : (list.mapIdx revise).foldl step state = list.foldl step state := by
  induction list generalizing revise state with
  | nil => rfl
  | cons x rest ih =>
      rw [List.mapIdx_cons, List.foldl_cons, List.foldl_cons, same]
      exact ih (fun state offset => same state (offset + 1)) _

theorem tokens_blankAt (offsets : List Nat) (definition : String) :
    tokens (blankAt offsets definition) = tokens definition := by
  rw [tokens, tokens, blankAt, String.toList_ofList, foldl_mapIdx]
  intro scan offset c
  unfold blanked
  split
  next replaced => exact Scan.step_of_refused replaced.2 scan
  next => rfl

theorem zipIdx_mapIdx {α β : Type} (revise : Nat → α → β) (list : List α) :
    (list.mapIdx revise).zipIdx =
      list.zipIdx.map fun (x, offset) => (revise offset x, offset) := by
  ext1 index
  simp [Function.comp_def]

theorem blanked_of_not_mem {offset : Nat} (stays : offset ∉ offsets) (c : Char) :
    blanked offsets offset c = c :=
  if_neg fun replaced => stays replaced.1

theorem isAccepted_blanked (offsets : List Nat) (offset : Nat) (c : Char) :
    isAccepted (blanked offsets offset c) = (isAccepted c || decide (offset ∈ offsets)) := by
  have blank : isAccepted ' ' = true := by decide
  unfold blanked
  split
  next replaced => simp [blank, replaced]
  next stays =>
      cases accepted : isAccepted c with
      | true => rfl
      | false => simp [show offset ∉ offsets from fun among => stays ⟨among, accepted⟩]

theorem badCharacters_blankAt (offsets : List Nat) (definition : String) :
    badCharacters (blankAt offsets definition) =
      (badCharacters definition).filter fun (_, offset) => offset ∉ offsets := by
  have refused : ∀ bad ∈ definition.toList.zipIdx, (!isAccepted (blanked offsets bad.2 bad.1)) =
      (decide (bad.2 ∉ offsets) && !isAccepted bad.1) := by
    intro bad _
    rw [isAccepted_blanked, Bool.not_or, Bool.and_comm, decide_not]
  rw [badCharacters, badCharacters, blankAt, String.toList_ofList, zipIdx_mapIdx, List.filter_map,
    List.filter_filter]
  refine (congrArg _ (List.filter_congr refused)).trans ?_
  refine (List.map_congr_left fun bad member => ?_).trans (List.map_id _)
  have stays := (List.mem_filter.mp member).2
  rw [Bool.and_eq_true, decide_eq_true_eq] at stays
  exact Prod.ext (blanked_of_not_mem stays.1 bad.1) rfl

theorem isAt_badCharacter (offsets : List Nat) (definition : String) (offset : Nat) (c : Char) :
    (badCharacter definition offset c).isAt offsets = decide (offset ∈ offsets) := by
  rw [Bool.eq_iff_iff]
  simp only [Diagnostic.isAt, badCharacter, List.any_eq_true, Int.ofNat_inj, decide_eq_true_eq,
    Option.some.injEq, exists_eq_right']

theorem unplaced_tokenDiagnostics_blankAt (offsets : List Nat) (definition : String) :
    (tokenDiagnostics (blankAt offsets definition)).map Diagnostic.unplaced =
      ((tokenDiagnostics definition).filter (!·.isAt offsets)).map Diagnostic.unplaced := by
  rw [tokenDiagnostics, badCharacters_blankAt, tokenDiagnostics, List.filter_map, List.map_map,
    List.map_map]
  have stays : ∀ bad ∈ badCharacters definition, decide (bad.2 ∉ offsets) =
      !(badCharacter definition bad.2 bad.1).isAt offsets := by
    intro bad _
    rw [isAt_badCharacter, decide_not]
  rw [List.filter_congr stays]
  rfl

theorem matches_of_contents (same : contents first = contents second) :
    (Machine.run (tokens first)).Matches (fun former latter => former.content = latter.content)
      (Machine.run (tokens second)) := by
  refine Machine.matches_run (fun _ _ alike => alike) ?_
  rwa [contents, contents, ← List.forall₂_eq_eq_eq, List.forall₂_map_left_iff,
    List.forall₂_map_right_iff] at same

theorem terms_of_contents (same : contents first = contents second) :
    terms first = terms second :=
  congrArg List.reverse (matches_of_contents same).terms

theorem unplaced_syntaxDiagnostics (same : contents first = contents second) :
    (syntaxDiagnostics (tokens first) first).map Diagnostic.unplaced =
      (syntaxDiagnostics (tokens second) second).map Diagnostic.unplaced := by
  rw [syntaxDiagnostics, syntaxDiagnostics, List.map_map, List.map_map]
  refine (matches_of_contents same).map_rejected ?_
  intro expecting former latter alike
  simp [Diagnostic.unplaced, syntaxError, (Prod.mk.inj alike).1]

section

variable [Limits]

theorem code_of_mem_expand {given : List Term} {count : Option Int} {problem : Diagnostic}
    (member : problem ∈ Notice.diagnostics (expand given count).notices) :
    problem.code = .frameOutOfRange := by
  obtain ⟨notice, among, found⟩ := List.mem_filterMap.mp member
  obtain ⟨index, rfl⟩ := eq_frameOutOfRange_of_mem_expand among
  obtain rfl := Option.some.inj found
  rfl

/-- What a definition and one that comes of it have in common. The reports on its characters and
tokens come before those on the frames. -/
structure ReadsAs (replaced : List Nat) (definition edited : String) : Prop where
  contents_eq : contents edited = contents definition
  terms_eq : terms edited = terms definition
  plays : ∀ count, (compile edited count).outcome = (compile definition count).outcome
  frames : ∀ count, ∃ outside : List Diagnostic,
    (∀ problem ∈ outside, problem.code = .frameOutOfRange) ∧
      ∀ text ∈ [definition, edited],
        Notice.diagnostics (compile text count).notices = termDiagnostics text ++ outside
  misfits : (syntaxDiagnostics (tokens edited) edited).map Diagnostic.unplaced =
    (syntaxDiagnostics (tokens definition) definition).map Diagnostic.unplaced
  characters : (tokenDiagnostics edited).map Diagnostic.unplaced =
    ((tokenDiagnostics definition).filter (!·.isAt replaced)).map Diagnostic.unplaced

/-- Spaces between tokens and for refused characters change nothing but where problems are found,
and the characters that were replaced are not reported any more. -/
theorem readsAs_of_respaced {replaced : List Nat}
    (respaced : Respaced (blankAt replaced definition) edited) :
    ReadsAs replaced definition edited := by
  have contents_eq : contents edited = contents definition := by
    rw [respaced.contents_eq, contents, tokens_blankAt, contents]
  have terms_eq := terms_of_contents contents_eq
  refine ⟨contents_eq, terms_eq, fun count => ?_, fun count => ?_,
    unplaced_syntaxDiagnostics contents_eq, ?_⟩
  · rw [outcome_compile, outcome_compile, terms_eq]
  · refine ⟨Notice.diagnostics (expand (terms definition) count).notices,
      fun _ => code_of_mem_expand, ?_⟩
    intro text among
    rcases List.mem_pair.mp among with rfl | rfl
    · exact diagnostics_compile text count
    · rw [diagnostics_compile, terms_eq]
  · rw [respaced.unplaced_tokenDiagnostics, unplaced_tokenDiagnostics_blankAt]

end

theorem readsAs_of_respaced_range :
    Respaced (blankAt [2] "1 ?2-x3") "1 2 -x3" ∧ ReadsAs [2] "1 ?2-x3" "1 2 -x3" := by
  have respaced : Respaced (blankAt [2] "1 ?2-x3") "1 2 -x3" :=
    .inserted "1 2" "-x3" (by decide) (.deleted "1 " "2-x3" (by decide) .same)
  exact ⟨respaced, readsAs_of_respaced respaced⟩

end Definition

end Flipbook
