import Flipbook.Proofs.Definition.Playback
import Flipbook.Proofs.Definition.Spelling
import Flipbook.Proofs.Text.Numeral
import Mathlib.Data.List.TakeWhile

/-!
What definitions play: sequences of naturals, and every finite one of them. No negative number is
ever read of a text, and a term goes from one of its numbers toward another without leaving them.
-/

namespace Flipbook.Definition

def Token.IsNatural (token : Token) : Prop := token.kind = .number → 0 ≤ token.value

structure Term.IsNatural (term : Term) : Prop where
  start : 0 ≤ term.start
  stop : 0 ≤ term.stop
  repeats : 0 ≤ term.repeats

theorem punctuation?_ne_number {c : Char} {kind : Token.Kind} (mark : punctuation? c = some kind) :
    kind ≠ .number := by
  unfold punctuation? at mark
  split at mark <;> cases mark <;> nofun

theorem Scan.isNatural_step {scan : Scan} (natural : ∀ token ∈ scan.tokens, token.IsNatural)
    (c : Char) : ∀ token ∈ (scan.step c).tokens, token.IsNatural := by
  intro token member number
  unfold Scan.step at member
  split at member
  next value _ =>
      simp only [Scan.digit] at member
      split at member
      next current earlier _ whole =>
          rw [whole] at natural
          rcases List.mem_cons.mp member with rfl | before
          · have least := natural current List.mem_cons_self number
            dsimp only
            omega
          · exact natural token (List.mem_cons_of_mem _ before) number
      next =>
          rcases List.mem_cons.mp member with rfl | before
          · exact Int.natCast_nonneg value
          · exact natural token before number
  next =>
      dsimp only at member
      split at member
      next kind mark =>
          rcases List.mem_cons.mp member with rfl | before
          · exact absurd number (punctuation?_ne_number mark)
          · exact natural token before number
      next => exact natural token member number

theorem isNatural_tokens (definition : String) : ∀ token ∈ tokens definition, token.IsNatural := by
  have scanned : ∀ (text : List Char) (scan : Scan), (∀ token ∈ scan.tokens, token.IsNatural) →
      ∀ token ∈ (text.foldl Scan.step scan).tokens, token.IsNatural := by
    intro text
    induction text with
    | nil => exact fun scan natural => natural
    | cons c rest ih => exact fun scan natural => ih _ (Scan.isNatural_step natural c)
  intro token member
  exact scanned definition.toList {} (by simp) token (List.mem_reverse.mp member)

theorem isNatural_reviseLatest {revise : Term → Term} {terms : List Term}
    (natural : ∀ term ∈ terms, term.IsNatural)
    (kept : ∀ term : Term, term.IsNatural → (revise term).IsNatural) :
    ∀ term ∈ reviseLatest revise terms, term.IsNatural := by
  cases terms with
  | nil => exact natural
  | cons latest earlier =>
      obtain ⟨here, before⟩ := List.forall_mem_cons.mp natural
      exact List.forall_mem_cons.mpr ⟨kept latest here, before⟩

theorem Expecting.isNatural_takeNumber {expecting : Expecting} {value : Int} {terms : List Term}
    (nonneg : 0 ≤ value) (natural : ∀ term ∈ terms, term.IsNatural) :
    ∀ term ∈ expecting.takeNumber value terms, term.IsNatural := by
  cases expecting with
  | start => exact List.forall_mem_cons.mpr ⟨⟨nonneg, nonneg, Int.zero_le_ofNat 1⟩, natural⟩
  | stop => exact isNatural_reviseLatest natural fun _ old => ⟨old.start, nonneg, old.repeats⟩
  | repeats => exact isNatural_reviseLatest natural fun _ old => ⟨old.start, old.stop, nonneg⟩
  | _ => exact natural

theorem Machine.isNatural_step {machine : Machine} {token : Token} (read : token.IsNatural)
    (natural : ∀ term ∈ machine.terms, term.IsNatural) :
    ∀ term ∈ (machine.step token).terms, term.IsNatural := by
  unfold Machine.step
  split
  next => exact natural
  next next _ =>
      dsimp only
      split
      next number => exact Expecting.isNatural_takeNumber (read number) natural
      next => exact natural

theorem isNatural_terms (definition : String) : ∀ term ∈ terms definition, term.IsNatural := by
  have ran : ∀ (tokens : List Token) (machine : Machine), (∀ token ∈ tokens, token.IsNatural) →
      (∀ term ∈ machine.terms, term.IsNatural) →
      ∀ term ∈ (tokens.foldl Machine.step machine).terms, term.IsNatural := by
    intro tokens
    induction tokens with
    | nil => exact fun machine _ natural => natural
    | cons token rest ih =>
        intro machine read natural
        obtain ⟨first, later⟩ := List.forall_mem_cons.mp read
        exact ih _ later (Machine.isNatural_step first natural)
  intro term member
  exact ran _ {} (isNatural_tokens definition) (by simp) term (List.mem_reverse.mp member)

theorem stepsToward_nonneg {start stop : Int} (starts : 0 ≤ start) (stops : 0 ≤ stop) :
    ∀ index ∈ stepsToward start stop, 0 ≤ index := by
  intro index member
  obtain ⟨step, inside, rfl⟩ := List.mem_map.mp member
  rw [List.mem_range] at inside
  split <;> omega

theorem Term.IsNatural.frames_nonneg {term : Term} (natural : term.IsNatural) :
    ∀ index ∈ term.frames, 0 ≤ index := by
  intro index member
  unfold Term.frames at member
  split at member
  next => contradiction
  next =>
      split at member
      next => exact List.eq_of_mem_replicate member ▸ natural.start
      next =>
          obtain ⟨step, among, repeated⟩ := List.mem_flatMap.mp member
          rw [List.eq_of_mem_replicate repeated]
          exact stepsToward_nonneg natural.start natural.stop step among

theorem playback_nonneg (definition : String) :
    ∀ index ∈ playback (terms definition), 0 ≤ index := by
  intro index member
  obtain ⟨term, among, played⟩ := List.mem_flatMap.mp member
  exact (isNatural_terms definition term among).frames_nonneg index played

theorem reportOutside_of_inside {count : Int} {indices : List Int}
    (inside : ∀ index ∈ indices, 0 ≤ index ∧ index < count) :
    reportOutside count indices = .ok () := by
  have none : indices.filter (isOutside count) = [] := by
    rw [List.filter_eq_nil_iff]
    intro index member
    have bounds := inside index member
    simp only [isOutside, Bool.or_eq_true, decide_eq_true_eq]
    omega
  simp [reportOutside, none, Report.ok]

def Spelling.ofNat (value : Nat) : Spelling where
  digits := Nat.toDigits 10 value
  filled := by
    rw [Nat.toDigits_eq_if (by decide)]
    split <;> simp
  ascii := by
    intro c member
    have digit := Nat.isDigit_of_mem_toDigits (by decide) (by decide) member
    simpa [Char.isDigit, Char.le_def] using digit

theorem Spelling.value_ofNat (value : Nat) : (Spelling.ofNat value).value = value := by
  rw [Spelling.value, Text.digitsValue_eq_ofDigitChars (Spelling.ofNat value).ascii]
  exact Nat.ofDigitChars_toDigits (by decide) (by decide)

def WrittenTerm.frame (index : Nat) : WrittenTerm := { gap := 0, start := .ofNat index }

theorem WrittenTerm.term_frame (index : Nat) : (frame index).term = ⟨index, index, 1⟩ := by
  simp [term, frame, Spelling.value_ofNat]

def showing : List Nat → String
  | [] => ""
  | first :: rest =>
    WrittenDefinition.text
      { first := .frame first, rest := rest.map fun index => (0, .frame index) }

theorem read_showing (indices : List Nat) :
    terms (showing indices) = indices.map (fun index : Nat => ⟨index, index, 1⟩) ∧
      termDiagnostics (showing indices) = [] := by
  cases indices with
  | nil => exact ⟨rfl, rfl⟩
  | cons first rest =>
      rw [showing]
      obtain ⟨read, quiet⟩ := WrittenDefinition.read_text
        { first := .frame first, rest := rest.map fun index => (0, .frame index) }
      refine ⟨?_, quiet⟩
      rw [read, WrittenDefinition.terms]
      simp [WrittenTerm.term_frame]

theorem toList_showing (first : Nat) (rest : List Nat) : (showing (first :: rest)).toList =
    Nat.toDigits 10 first ++ rest.flatMap fun index => ',' :: Nat.toDigits 10 index := by
  simp [showing, WrittenDefinition.text, WrittenDefinition.links, WrittenTerm.frame,
    WrittenTerm.links, spaces, Spelling.ofNat, List.flatMap_assoc, List.flatMap_map]
  rfl

def IsSymbol (c : Char) : Prop := ('0' ≤ c ∧ c ≤ '9') ∨ c ∈ [',', '-', '(', ')']

theorem isSymbol_showing (indices : List Nat) : ∀ c ∈ (showing indices).toList, IsSymbol c := by
  cases indices with
  | nil => simp [showing]
  | cons first rest =>
      intro c member
      rw [toList_showing] at member
      rcases List.mem_append.mp member with start | later
      · exact .inl ((Spelling.ofNat first).ascii c start)
      · obtain ⟨index, -, member⟩ := List.mem_flatMap.mp later
        rcases List.mem_cons.mp member with rfl | digit
        · exact .inr List.mem_cons_self
        · exact .inl ((Spelling.ofNat index).ascii c digit)

theorem Term.frames_single (index : Int) : Term.frames ⟨index, index, 1⟩ = [index] := by
  simp [Term.frames, Term.isHold]

theorem playback_singles (indices : List Nat) :
    playback (indices.map fun index : Nat => ⟨index, index, 1⟩) =
      indices.map fun index : Nat => (index : Int) := by
  rw [playback, List.flatMap_map]
  simp only [Term.frames_single]
  exact (List.map_eq_flatMap ..).symm

section

variable [Limits]

theorem expand_of_error {given : List Term} {fault : Fault}
    (failed : given.forM Term.checkLength = .error fault) (count : Option Int) :
    expand given count = .fail fault := by
  simp [expand, failed, Report.bind, Report.ofExcept, Report.fail]

theorem expand_of_ok {given : List Term} (checked : given.forM Term.checkLength = .ok ()) :
    expand given none = .ok (playback given) ∧
      ∀ count, expand given (some count) =
        (reportOutside count (playback given)).bind fun _ => .ok (playback given) := by
  constructor
  · simp [expand, checked, Report.bind, Report.ofExcept, Report.ok]
  · intro count
    simp [expand, checked, Report.bind, Report.ofExcept]

/-- Whether there is room for all that terms play, and every index beyond the frames can be written
into its report. -/
structure ArePlayable (given : List Term) (count : Option Int) : Prop where
  fit : ∀ term ∈ given, term.frames.length ≤ Limits.maxItems
  writable : ∀ limit ∈ count, ∀ index ∈ playback given,
    isOutside limit index = true → Text.isWritable index = true

def outsideReports (count : Option Int) (indices : List Int) : List Diagnostic :=
  count.elim [] fun limit => (indices.filter (isOutside limit)).map frameOutOfRange

theorem expand_of_playable {given : List Term} {count : Option Int}
    (playable : ArePlayable given count) : expand given count =
      { notices := (outsideReports count (playback given)).map .diagnostic
        outcome := .ok (playback given) } := by
  obtain ⟨plain, counted⟩ := expand_of_ok (forM_checkLength_of_fit playable.fit)
  cases count with
  | none => exact plain
  | some limit =>
      have writable : ∀ index ∈ (playback given).filter (isOutside limit),
          Text.isWritable index = true := by
        intro index member
        obtain ⟨played, outside⟩ := List.mem_filter.mp member
        exact playable.writable limit rfl index played outside
      rw [counted, reportOutside, List.takeWhile_eq_self_iff.mpr writable,
        if_pos (List.all_eq_true.mpr writable)]
      simp [outsideReports, Report.bind, Report.ok]

theorem outcome_expand_eq_ok_iff {given : List Term} {count : Option Int} {indices : List Int} :
    (expand given count).outcome = .ok indices ↔
      ArePlayable given count ∧ indices = playback given := by
  constructor
  · intro expanded
    rcases forM_checkLength_cases given with ⟨fit, checked⟩ | ⟨-, fault, failed, -⟩
    · obtain ⟨plain, counted⟩ := expand_of_ok checked
      cases count with
      | none =>
          rw [plain] at expanded
          exact ⟨⟨fit, nofun⟩, (Except.ok.inj expanded).symm⟩
      | some limit =>
          rw [counted, reportOutside, Report.bind] at expanded
          dsimp only at expanded
          by_cases writable :
            ((playback given).filter (isOutside limit)).all Text.isWritable = true
          · rw [if_pos writable] at expanded
            refine ⟨⟨fit, ?_⟩, (Except.ok.inj expanded).symm⟩
            rintro _ ⟨⟩ index played outside
            exact List.all_eq_true.mp writable index (List.mem_filter.mpr ⟨played, outside⟩)
          · rw [if_neg writable] at expanded
            contradiction
    · rw [expand_of_error failed] at expanded
      contradiction
  · rintro ⟨playable, rfl⟩
    rw [expand_of_playable playable]

theorem compile_of_quiet {definition : String} (quiet : termDiagnostics definition = [])
    (count : Option Int) : compile definition count = expand (terms definition) count := by
  simp [compile, quiet, Report.diagnoseAll, Report.bind]

theorem eq_playback_of_compile {definition : String} {count : Option Int} {indices : List Int}
    (compiled : (compile definition count).outcome = .ok indices) :
    indices = playback (terms definition) := by
  rw [outcome_compile, outcome_expand_eq_ok_iff] at compiled
  exact compiled.2

theorem compile_none_iff (definition : String) :
    (compile definition none).outcome = .ok (playback (terms definition)) ↔
      ∀ term ∈ terms definition, term.frames.length ≤ Limits.maxItems := by
  rw [outcome_compile, outcome_expand_eq_ok_iff]
  exact ⟨fun playable => playable.1.fit, fun fit => ⟨⟨fit, nofun⟩, rfl⟩⟩

theorem compile_showing {indices : List Nat} {count : Option Int}
    (inside : ∀ limit ∈ count, ∀ index ∈ indices, (index : Int) < limit) :
    compile (showing indices) count = .ok (indices.map fun index : Nat => (index : Int)) := by
  obtain ⟨read, quiet⟩ := read_showing indices
  rw [compile_of_quiet quiet, read]
  have fit : ∀ term ∈ indices.map (fun index : Nat => (⟨index, index, 1⟩ : Term)),
      term.frames.length ≤ Limits.maxItems := by
    intro term member
    obtain ⟨index, -, rfl⟩ := List.mem_map.mp member
    rw [Term.frames_single]
    exact Limits.maxItems_pos
  obtain ⟨plain, counted⟩ := expand_of_ok (forM_checkLength_of_fit fit)
  rw [playback_singles] at plain counted
  cases count with
  | none => exact plain
  | some limit =>
      rw [counted, reportOutside_of_inside]
      · rfl
      · intro index member
        obtain ⟨natural, among, rfl⟩ := List.mem_map.mp member
        exact ⟨Int.natCast_nonneg natural, inside limit rfl natural among⟩

/-- Definitions play sequences of naturals, whatever else they say. Every finite sequence of
naturals is played by a definition in which there is nothing to report, also where all of its
indices are counted against the frames that there are. -/
theorem denotes_naturals :
    (∀ definition, ∀ index ∈ playback (terms definition), 0 ≤ index) ∧
    (∀ definition count indices, (compile definition count).outcome = .ok indices →
      indices = playback (terms definition)) ∧
    (∀ definition, (compile definition none).outcome = .ok (playback (terms definition)) ↔
      ∀ term ∈ terms definition, term.frames.length ≤ Limits.maxItems) ∧
    ∀ indices : List Nat, ∃ definition, (∀ c ∈ definition.toList, IsSymbol c) ∧
      ∀ count : Option Int, (∀ limit ∈ count, ∀ index ∈ indices, (index : Int) < limit) →
        compile definition count = .ok (indices.map fun index : Nat => (index : Int)) :=
  ⟨playback_nonneg, fun _ _ _ => eq_playback_of_compile, compile_none_iff, fun indices =>
    ⟨showing indices, isSymbol_showing indices, fun _ => compile_showing⟩⟩

end

theorem denotes_naturals_of_repeated_frame : ∃ definition,
    compile definition (some 4) = .ok [3, 1, 1] := by
  obtain ⟨definition, -, plays⟩ := denotes_naturals.2.2.2 [3, 1, 1]
  exact ⟨definition, plays (some 4) (by simp)⟩

end Flipbook.Definition
