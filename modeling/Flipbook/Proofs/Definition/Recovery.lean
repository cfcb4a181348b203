import Flipbook.Proofs.Definition.Offsets
import Flipbook.Proofs.Definition.Reading

/-!
Definitions that are no beginning of a sentence. Reading them comes to the same as reading them
without the tokens that are reported, and each of their characters is accounted for once.
-/

namespace Flipbook.Definition

/-- The tokens that a machine is given, each beside whether the machine reports it. -/
def Machine.marks (machine : Machine) : List Token → List (Token × Bool)
  | [] => []
  | token :: rest =>
    let next := machine.step token
    (token, machine.rejected.length < next.rejected.length) :: next.marks rest

def marks (tokens : List Token) : List (Token × Bool) := Machine.marks {} tokens

def kept (marks : List (Token × Bool)) : List Token := (marks.filter (!·.2)).map (·.1)

def reported (marks : List (Token × Bool)) : List Token := (marks.filter (·.2)).map (·.1)

def Machine.quiet (machine : Machine) : Machine := { machine with rejected := [] }

variable {machine : Machine} {token : Token} {given rest : List Token} {next : Expecting}

theorem Machine.marks_of_fits (fits : machine.expecting.next? token.kind = some next) :
    machine.marks (token :: rest) = (token, false) :: (machine.step token).marks rest := by
  simp [Machine.marks, Machine.step, fits]

theorem Machine.marks_of_misfit (misfit : machine.expecting.next? token.kind = none) :
    machine.marks (token :: rest) = (token, true) :: (machine.step token).marks rest := by
  simp [Machine.marks, Machine.step, misfit]

theorem Machine.expecting_step_of_fits (fits : machine.expecting.next? token.kind = some next) :
    (machine.step token).expecting = next := by
  simp [Machine.step, fits]

theorem Machine.quiet_step_of_fits (fits : machine.expecting.next? token.kind = some next) :
    machine.quiet.step token = (machine.step token).quiet := by
  simp [Machine.step, Machine.quiet, fits]

theorem Machine.step_of_fits (fits : machine.expecting.next? token.kind = some next) :
    machine.step token =
      { machine with
        expecting := next
        terms :=
          if token.kind = .number then machine.expecting.takeNumber token.value machine.terms
          else machine.terms } := by
  simp [Machine.step, fits]

theorem Machine.step_of_misfit (misfit : machine.expecting.next? token.kind = none) :
    machine.step token =
      { machine with rejected := (machine.expecting, token) :: machine.rejected } := by
  simp [Machine.step, misfit]

theorem run_append (given rest : List Token) :
    Machine.run (given ++ rest) = rest.foldl Machine.step (Machine.run given) :=
  List.foldl_append

theorem map_marks (machine : Machine) (tokens : List Token) :
    (machine.marks tokens).map (·.1) = tokens := by
  induction tokens generalizing machine with
  | nil => rfl
  | cons token rest ih => simp [Machine.marks, ih]

theorem foldl_kept (machine : Machine) (tokens : List Token) :
    (kept (machine.marks tokens)).foldl Machine.step machine.quiet =
      (tokens.foldl Machine.step machine).quiet := by
  induction tokens generalizing machine with
  | nil => rfl
  | cons token rest ih =>
      rw [List.foldl_cons, ← ih]
      cases fits : machine.expecting.next? token.kind with
      | some next =>
          rw [Machine.marks_of_fits fits, ← Machine.quiet_step_of_fits fits]
          rfl
      | none =>
          have same : (machine.step token).quiet = machine.quiet := by
            rw [Machine.step_of_misfit fits]
            rfl
          rw [Machine.marks_of_misfit fits, same]
          rfl

theorem map_rejected (machine : Machine) (tokens : List Token) :
    (tokens.foldl Machine.step machine).rejected.reverse.map (·.2) =
      machine.rejected.reverse.map (·.2) ++ reported (machine.marks tokens) := by
  induction tokens generalizing machine with
  | nil => simp [Machine.marks, reported]
  | cons token rest ih =>
      rw [List.foldl_cons, ih]
      cases fits : machine.expecting.next? token.kind with
      | some next =>
          have same : (machine.step token).rejected = machine.rejected := by
            simp [Machine.step, fits]
          rw [Machine.marks_of_fits fits, same]
          rfl
      | none =>
          rw [Machine.marks_of_misfit fits, Machine.step_of_misfit fits]
          simp [reported]

theorem isReported_iff {earlier later : List (Token × Bool)} {isReported : Bool}
    (marked : machine.marks given = earlier ++ (token, isReported) :: later) :
    isReported = true ↔
      machine.expecting.reads? ((kept earlier ++ [token]).map (·.kind)) = none := by
  induction earlier generalizing machine given with
  | nil =>
      cases given with
      | nil => contradiction
      | cons first rest =>
          cases fits : machine.expecting.next? first.kind with
          | some next =>
              rw [Machine.marks_of_fits fits] at marked
              obtain ⟨rfl, rfl⟩ := Prod.mk.inj (List.cons.inj marked).1
              simp [kept, Expecting.reads?, fits]
          | none =>
              rw [Machine.marks_of_misfit fits] at marked
              obtain ⟨rfl, rfl⟩ := Prod.mk.inj (List.cons.inj marked).1
              simp [kept, Expecting.reads?, fits]
  | cons mark earlier ih =>
      cases given with
      | nil => contradiction
      | cons first rest =>
          cases fits : machine.expecting.next? first.kind with
          | some next =>
              rw [Machine.marks_of_fits fits, List.cons_append] at marked
              obtain ⟨rfl, following⟩ := List.cons.inj marked
              rw [ih following, Machine.expecting_step_of_fits fits]
              simp [kept, Expecting.reads?, fits]
          | none =>
              rw [Machine.marks_of_misfit fits, List.cons_append] at marked
              obtain ⟨rfl, following⟩ := List.cons.inj marked
              rw [ih following, Machine.step_of_misfit fits]
              simp [kept]

theorem run_kept (tokens : List Token) :
    Machine.run (kept (marks tokens)) = (Machine.run tokens).quiet :=
  foldl_kept {} tokens

theorem isViable_kept (tokens : List Token) : IsViable ((kept (marks tokens)).map (·.kind)) := by
  have quiet : (Machine.run (kept (marks tokens))).rejected = [] := by
    rw [run_kept]
    rfl
  rw [Machine.run, Machine.rejected_eq_nil_iff] at quiet
  exact isViable_iff.mpr quiet.2

/-- How a list of tokens is read that may be no beginning of a sentence. -/
structure Recovers (tokens : List Token) (definition : String) : Prop where
  marked : (marks tokens).map (·.1) = tokens
  reported_iff : ∀ (earlier later : List (Token × Bool)) (token : Token) (isReported : Bool),
    marks tokens = earlier ++ (token, isReported) :: later →
      (isReported = true ↔ ¬ IsViable ((kept earlier ++ [token]).map (·.kind)))
  offsets : (syntaxDiagnostics tokens definition).map (·.offset) =
    (reported (marks tokens)).map fun token => some token.position
  viable : IsViable ((kept (marks tokens)).map (·.kind))
  terms : termsOfTokens (kept (marks tokens)) = termsOfTokens tokens
  quiet : syntaxDiagnostics (kept (marks tokens)) definition = []

theorem recovers (tokens : List Token) (definition : String) : Recovers tokens definition := by
  have run := run_kept tokens
  refine ⟨map_marks {} tokens, ?_, ?_, isViable_kept tokens, ?_, ?_⟩
  · intro earlier later token isReported marked
    rw [isReported_iff marked, isViable_iff, ← Option.isSome_iff_exists,
      Option.not_isSome_iff_eq_none]
  · have rejected := congrArg (List.map fun token => some token.position) (map_rejected {} tokens)
    rw [List.map_map, List.map_append] at rejected
    rw [syntaxDiagnostics, List.map_map]
    exact rejected
  · rw [termsOfTokens, run]
    rfl
  · rw [syntaxDiagnostics, run]
    rfl

theorem countP_kept_add (marks : List (Token × Bool)) (holds : Token → Bool) :
    (kept marks).countP holds + (reported marks).countP holds =
      (marks.map (·.1)).countP holds := by
  induction marks with
  | nil => rfl
  | cons mark rest ih =>
      obtain ⟨token, isReported⟩ := mark
      rw [List.map_cons, List.countP_cons, ← ih]
      cases isReported with
      | false =>
          rw [show kept ((token, false) :: rest) = token :: kept rest from rfl, List.countP_cons,
            show reported ((token, false) :: rest) = reported rest from rfl, Nat.add_right_comm]
      | true =>
          rw [show reported ((token, true) :: rest) = token :: reported rest from rfl,
            List.countP_cons, show kept ((token, true) :: rest) = kept rest from rfl, Nat.add_assoc]

theorem reported_sublist (tokens : List Token) : (reported (marks tokens)).Sublist tokens := by
  have sublist := (List.filter_sublist (l := marks tokens) (p := (·.2))).map (·.1)
  rwa [show (marks tokens).map (·.1) = tokens from map_marks {} tokens] at sublist

theorem token_mem_of_rejected {expecting : Expecting}
    (member : (expecting, token) ∈ (Machine.run given).rejected) : token ∈ given := by
  have among := List.mem_map_of_mem (f := (·.2)) (List.mem_reverse.mpr member)
  rw [Machine.run, map_rejected {} given] at among
  exact (reported_sublist given).subset among

def reportsAt (code : Diagnostic.Code) (offset : Int) (diagnostic : Diagnostic) : Bool :=
  diagnostic.code = code && diagnostic.offset = some offset

def IsBefore (left right : Option Int) : Prop :=
  ∃ former latter : Int, left = some former ∧ right = some latter ∧ former < latter

variable {definition : String} {diagnostic : Diagnostic} {offset : Nat} {c : Char}

theorem code_of_mem_tokenDiagnostics (member : diagnostic ∈ tokenDiagnostics definition) :
    diagnostic.code = .badCharacter := by
  obtain ⟨bad, -, rfl⟩ := List.mem_map.mp member
  rfl

theorem code_of_mem_syntaxDiagnostics (member : diagnostic ∈ syntaxDiagnostics given definition) :
    diagnostic.code = .syntaxError := by
  obtain ⟨rejected, -, rfl⟩ := List.mem_map.mp member
  rfl

theorem countP_badCharacter (present : definition.toList[offset]? = some c) :
    (termDiagnostics definition).countP (reportsAt .badCharacter offset) =
      if isAccepted c then 0 else 1 := by
  have others : (syntaxDiagnostics (tokens definition) definition).countP
      (reportsAt .badCharacter offset) = 0 := by
    refine List.countP_eq_zero.mpr fun diagnostic member => ?_
    simp [reportsAt, code_of_mem_syntaxDiagnostics member]
  rw [termDiagnostics, List.countP_append, others, tokenDiagnostics, List.countP_map,
    ← countP_badCharacters present, Nat.add_zero]
  refine List.countP_congr fun bad _ => ?_
  simp only [Function.comp_apply, reportsAt, badCharacter, Bool.and_eq_true, decide_eq_true_eq,
    Option.some.injEq, Int.ofNat_inj, true_and]

theorem countP_syntaxError (member : token ∈ reported (marks (tokens definition))) :
    (termDiagnostics definition).countP (reportsAt .syntaxError token.position) = 1 := by
  have others : (tokenDiagnostics definition).countP
      (reportsAt .syntaxError token.position) = 0 := by
    refine List.countP_eq_zero.mpr fun diagnostic member => ?_
    simp [reportsAt, code_of_mem_tokenDiagnostics member]
  have same : (syntaxDiagnostics (tokens definition) definition).countP
      (reportsAt .syntaxError token.position) =
        ((syntaxDiagnostics (tokens definition) definition).map (·.offset)).countP
          (· = some token.position) := by
    rw [List.countP_map]
    refine List.countP_congr fun diagnostic member => ?_
    simp [reportsAt, code_of_mem_syntaxDiagnostics member]
  have sublist := reported_sublist (tokens definition)
  rw [termDiagnostics, List.countP_append, others, same, (recovers _ _).offsets, List.countP_map,
    Nat.zero_add]
  have nodup := nodup_positions definition
  refine countP_eq_one (sublist.nodup (.of_map _ nodup)) member (by simp) ?_
  intro other again equal
  exact List.inj_on_of_nodup_map nodup (sublist.subset again) (sublist.subset member)
    (by simpa using equal)

theorem isLocated (member : diagnostic ∈ termDiagnostics definition) :
    diagnostic.source = some definition ∧
      ∃ offset : Nat, offset < definition.length ∧ diagnostic.offset = some (offset : Int) := by
  rw [← String.length_toList]
  rcases List.mem_append.mp member with bad | misplaced
  · obtain ⟨⟨c, offset⟩, refused, rfl⟩ := List.mem_map.mp bad
    obtain ⟨inside, -⟩ := List.getElem?_eq_some_iff.mp (mem_badCharacters_iff.mp refused).1
    exact ⟨rfl, offset, inside, rfl⟩
  · obtain ⟨⟨expecting, token⟩, rejected, rfl⟩ := List.mem_map.mp misplaced
    have among := token_mem_of_rejected (List.mem_reverse.mp rejected)
    obtain ⟨start, position, begins⟩ := exists_begins?_of_mem among
    exact ⟨rfl, start, lt_length_of_begins? begins, congrArg some position⟩

theorem pairwise_tokenDiagnostics (definition : String) :
    (tokenDiagnostics definition).Pairwise fun left right =>
      IsBefore left.offset right.offset := by
  rw [tokenDiagnostics, List.pairwise_map]
  exact (pairwise_badCharacters definition).imp fun less => ⟨_, _, rfl, rfl, Int.ofNat_lt.mpr less⟩

theorem pairwise_syntaxDiagnostics (definition : String) :
    (syntaxDiagnostics (tokens definition) definition).Pairwise fun left right =>
      IsBefore left.offset right.offset := by
  have increasing := (pairwise_position definition).sublist (reported_sublist _)
  rw [← List.pairwise_map (R := IsBefore), (recovers _ _).offsets, List.pairwise_map]
  exact increasing.imp fun less => ⟨_, _, rfl, rfl, less⟩

/-- What becomes of the characters of a definition. -/
structure Accounts (definition : String) : Prop where
  /-- A character belongs to one kept token, to one reported token or to one report of its own, and
  to one of them only. Spaces belong to none. -/
  characters : ∀ (offset : Nat) (c : Char), definition.toList[offset]? = some c →
    (kept (marks (tokens definition))).countP (·.covers definition.toList offset) +
      (reported (marks (tokens definition))).countP (·.covers definition.toList offset) +
      (termDiagnostics definition).countP (reportsAt .badCharacter offset) =
        if c = ' ' then 0 else 1
  begins : ∀ token ∈ tokens definition, ∃ start : Nat, token.position = start ∧
    start < definition.length ∧ token.covers definition.toList start = true
  reported_once : ∀ token ∈ reported (marks (tokens definition)),
    (termDiagnostics definition).countP (reportsAt .syntaxError token.position) = 1
  located : ∀ diagnostic ∈ termDiagnostics definition, diagnostic.source = some definition ∧
    ∃ offset : Nat, offset < definition.length ∧ diagnostic.offset = some (offset : Int)
  ordered : ∃ refused misplaced, termDiagnostics definition = refused ++ misplaced ∧
    (∀ diagnostic ∈ refused, diagnostic.code = .badCharacter) ∧
    (∀ diagnostic ∈ misplaced, diagnostic.code = .syntaxError) ∧
    (refused.Pairwise fun left right => IsBefore left.offset right.offset) ∧
    misplaced.Pairwise fun left right => IsBefore left.offset right.offset

theorem countP_characters (present : definition.toList[offset]? = some c) :
    (kept (marks (tokens definition))).countP (·.covers definition.toList offset) +
      (reported (marks (tokens definition))).countP (·.covers definition.toList offset) +
      (termDiagnostics definition).countP (reportsAt .badCharacter offset) =
        if c = ' ' then 0 else 1 := by
  rw [countP_kept_add, marks, map_marks, countP_covers present, countP_badCharacter present]
  by_cases space : c = ' '
  · subst c
    rfl
  · rw [if_neg space]
    cases token : Text.isAsciiDigit c || (punctuation? c).isSome with
    | true =>
        have accepted : isAccepted c = true := by
          rw [isAccepted]
          simpa [Text.isAsciiDigit, space] using token
        simp [accepted]
    | false =>
        have refused : isAccepted c = false := by
          rw [isAccepted]
          simpa [Text.isAsciiDigit, space] using token
        simp [refused]

theorem accounts (definition : String) : Accounts definition := by
  refine ⟨fun _ _ => countP_characters, ?_, fun _ => countP_syntaxError, fun _ => isLocated, ?_⟩
  · intro token member
    obtain ⟨start, position, begins⟩ := exists_begins?_of_mem member
    rw [← String.length_toList]
    exact ⟨start, position, lt_length_of_begins? begins, Token.covers_start position begins⟩
  · exact ⟨_, _, rfl, fun _ => code_of_mem_tokenDiagnostics,
      fun _ => code_of_mem_syntaxDiagnostics, pairwise_tokenDiagnostics definition,
      pairwise_syntaxDiagnostics definition⟩

/-- Tokens that fit nowhere are as if they had not been there, and nothing is left out without a
report. -/
theorem recovery :
    (∀ tokens definition, Recovers tokens definition) ∧ ∀ definition, Accounts definition :=
  ⟨recovers, accounts⟩

end Flipbook.Definition
