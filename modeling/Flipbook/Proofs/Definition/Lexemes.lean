import Flipbook.Proofs.Definition.Continuation
import Flipbook.Proofs.Definition.Spelling
import Flipbook.Proofs.Text.Numeral
import Mathlib.Data.List.TakeWhile

/-!
What the tokens of a definition are: one for each mark, and one for each run of digits that goes no
further on either side. Where two texts meet, the numbers on both sides of the seam become one.
-/

namespace Flipbook.Definition

variable {before behind : List Char} {spelling : Spelling} {definition : String} {token : Token}

namespace Spelling

def append (left right : Spelling) : Spelling where
  digits := left.digits ++ right.digits
  filled := List.append_ne_nil_of_left_ne_nil left.filled _
  ascii c member := (List.mem_append.mp member).elim (left.ascii c) (right.ascii c)

theorem value_append (left right : Spelling) :
    (left.append right).value = left.value * Nat.pow 10 right.digits.length + right.value :=
  Text.digitsValue_append left.ascii right.ascii

theorem exists_of_head? {text : List Char} (begins : text.head?.any Text.isAsciiDigit = true) :
    ∃ (spelling : Spelling) (behind : List Char), text = spelling.digits ++ behind ∧
      spelling.digits = text.takeWhile Text.isAsciiDigit ∧
        behind.head?.any Text.isAsciiDigit = false := by
  have filled : text.takeWhile Text.isAsciiDigit ≠ [] := by
    cases text with
    | nil => contradiction
    | cons c rest =>
        rw [List.takeWhile_cons_of_pos (by simpa using begins)]
        exact List.cons_ne_nil _ _
  refine ⟨⟨text.takeWhile Text.isAsciiDigit, filled, fun c member =>
    Text.isAsciiDigit_iff.mp (List.mem_takeWhile_imp member)⟩, text.dropWhile Text.isAsciiDigit,
    List.takeWhile_append_dropWhile.symm, rfl, Text.any_head?_dropWhile_isAsciiDigit text⟩

theorem exists_of_getLast? {text : List Char} (ends : text.getLast?.any Text.isAsciiDigit = true) :
    ∃ (before : List Char) (spelling : Spelling), text = before ++ spelling.digits ∧
      before.getLast?.any Text.isAsciiDigit = false := by
  rw [List.getLast?_eq_head?_reverse] at ends
  obtain ⟨⟨digits, filled, ascii⟩, rest, whole, -, stops⟩ := exists_of_head? ends
  refine ⟨rest.reverse, ⟨digits.reverse, ?_, fun c member => ascii c (List.mem_reverse.mp member)⟩,
    ?_, ?_⟩
  · simpa using filled
  · rw [← List.reverse_append, ← whole, List.reverse_reverse]
  · rwa [List.getLast?_reverse]

end Spelling

structure IsRun (before : List Char) (behind : List Char) : Prop where
  starts : before.getLast?.any Text.isAsciiDigit = false
  stops : behind.head?.any Text.isAsciiDigit = false

inductive Lexeme (text : List Char) : Token → Prop
  | mark {offset : Nat} {mark : Mark} (present : text[offset]? = some mark.char) :
      Lexeme text ⟨mark.kind, -1, offset⟩
  | number {before behind : List Char} {spelling : Spelling}
      (whole : text = before ++ (spelling.digits ++ behind)) (run : IsRun before behind) :
      Lexeme text ⟨.number, spelling.value, before.length⟩

theorem tokens_digits (spelling : Spelling) :
    tokens (String.ofList spelling.digits) = [⟨.number, spelling.value, 0⟩] := by
  have fresh : Scan.inNumber {} = false := rfl
  have read := Scan.contents_foldl_spelling fresh spelling
  have single : (tokens (String.ofList spelling.digits)).map Token.content =
      [(.number, (spelling.value : Int))] := by
    rw [tokens, String.toList_ofList, List.map_reverse]
    exact congrArg List.reverse read
  obtain ⟨token, only, content⟩ := List.map_eq_singleton_iff.mp single
  obtain ⟨kind, value⟩ := Prod.mk.inj content
  obtain ⟨start, position, begins⟩ :=
    exists_begins?_of_mem (only ▸ List.mem_singleton_self token)
  have first : start = 0 := by
    by_contra later
    have inside := lt_length_of_begins? begins
    obtain ⟨-, fresh⟩ := isDigitAt_of_begins?_number (kind ▸ begins)
    have absent := fresh (Nat.pos_of_ne_zero later)
    rw [String.toList_ofList] at inside absent
    have before : start - 1 < spelling.digits.length := by omega
    have present : spelling.digits[start - 1]? = some spelling.digits[start - 1] :=
      List.getElem?_eq_getElem before
    rw [isDigitAt_of_getElem? present,
      Text.isAsciiDigit_iff.mpr (spelling.ascii _ (List.getElem_mem _))] at absent
    contradiction
  obtain ⟨_, _, _⟩ := token
  subst kind value position first
  exact only

theorem exists_mark_of_punctuation? {c : Char} {kind : Token.Kind}
    (marked : punctuation? c = some kind) : ∃ mark : Mark, c = mark.char ∧ kind = mark.kind := by
  unfold punctuation? at marked
  split at marked <;> cases marked
  · exact ⟨.comma, rfl, rfl⟩
  · exact ⟨.hyphen, rfl, rfl⟩
  · exact ⟨.openParen, rfl, rfl⟩
  · exact ⟨.closeParen, rfl, rfl⟩

theorem tokens_mark (mark : Mark) :
    tokens (String.singleton mark.char) = [⟨mark.kind, -1, 0⟩] := by
  cases mark <;> decide

theorem tokens_of_leading (spelling : Spelling)
    (stops : behind.head?.any Text.isAsciiDigit = false) :
    tokens (String.ofList (spelling.digits ++ behind)) = ⟨.number, spelling.value, 0⟩ ::
      (tokens (String.ofList behind)).map (Token.moved spelling.digits.length) := by
  have apart : AreApart (String.ofList spelling.digits) (String.ofList behind) := by
    intro _
    rwa [String.toList_ofList]
  rw [String.ofList_append, tokens_append apart, tokens_digits, ← String.length_toList,
    String.toList_ofList]
  rfl

theorem tokens_of_run (run : IsRun before behind) (spelling : Spelling) :
    tokens (String.ofList (before ++ (spelling.digits ++ behind))) =
      tokens (String.ofList before) ++ ⟨.number, spelling.value, before.length⟩ ::
        (tokens (String.ofList behind)).map
          (Token.moved (before.length + spelling.digits.length)) := by
  have apart : AreApart (String.ofList before) (String.ofList (spelling.digits ++ behind)) := by
    intro digit
    rw [String.toList_ofList, run.starts] at digit
    contradiction
  rw [String.ofList_append, tokens_append apart, tokens_of_leading spelling run.stops,
    List.map_cons, List.map_map, ← String.length_toList, String.toList_ofList,
    Token.moved_comp_moved, Nat.add_comm spelling.digits.length]
  simp [Token.moved]

theorem eq_of_position (member : token ∈ tokens definition) {other : Token}
    (again : other ∈ tokens definition) (same : token.position = other.position) :
    token = other :=
  List.inj_on_of_nodup_map (nodup_positions definition) member again same

theorem Lexeme.mem_tokens (lexeme : Lexeme definition.toList token) :
    token ∈ tokens definition := by
  cases lexeme with
  | @mark offset mark present =>
      obtain ⟨inside, found⟩ := List.getElem?_eq_some_iff.mp present
      have noDigit : Text.isAsciiDigit mark.char = false := by cases mark <;> rfl
      have whole : definition = String.ofList (definition.toList.take offset) ++
          (String.singleton mark.char ++
            String.ofList (definition.toList.drop (offset + 1))) := by
        rw [← String.toList_inj, String.toList_append, String.toList_append, String.toList_ofList,
          String.toList_ofList, String.toList_singleton, List.singleton_append, ← found,
          List.getElem_cons_drop, List.take_append_drop]
      rw [whole, tokens_append_mark (String.toList_singleton ..) noDigit, tokens_mark mark]
      have length : (String.ofList (definition.toList.take offset)).length = offset := by
        rw [← String.length_toList, String.toList_ofList, List.length_take]
        omega
      simp [Token.moved, length]
  | @number before behind spelling whole run =>
      rw [← String.ofList_toList (s := definition), whole, tokens_of_run run]
      exact List.mem_append_right _ List.mem_cons_self

theorem mem_tokens_iff : token ∈ tokens definition ↔ Lexeme definition.toList token := by
  refine ⟨fun member => ?_, Lexeme.mem_tokens⟩
  obtain ⟨start, position, begins⟩ := exists_begins?_of_mem member
  have settle : ∀ other, Lexeme definition.toList other → other.position = start →
      Lexeme definition.toList token := by
    intro other lexeme place
    rwa [eq_of_position member lexeme.mem_tokens (position.trans place.symm)]
  by_cases number : token.kind = .number
  · rw [number] at begins
    obtain ⟨digit, fresh⟩ := isDigitAt_of_begins?_number begins
    have inside := lt_length_of_begins? begins
    have first : (definition.toList.drop start).head?.any Text.isAsciiDigit = true := by
      rwa [List.head?_drop]
    obtain ⟨spelling, behind, rest, -, stops⟩ := Spelling.exists_of_head? first
    have starts : (definition.toList.take start).getLast?.any Text.isAsciiDigit = false := by
      rw [List.getLast?_take]
      split
      next => rfl
      next later =>
          have present : start - 1 < definition.toList.length := by omega
          have absent := fresh (Nat.pos_of_ne_zero later)
          rw [isDigitAt, List.getElem?_eq_getElem present] at absent
          rw [List.getElem?_eq_getElem present]
          exact absent
    have whole : definition.toList =
        definition.toList.take start ++ (spelling.digits ++ behind) := by
      rw [← rest, List.take_append_drop]
    refine settle _ (.number whole ⟨starts, stops⟩) ?_
    simp [Nat.min_eq_left (Nat.le_of_lt inside)]
  · have noDigit := isDigitAt_of_begins?_mark begins number
    simp only [begins?, noDigit, Bool.false_eq_true, if_false] at begins
    obtain ⟨c, present, marked⟩ := Option.bind_eq_some_iff.mp begins
    obtain ⟨mark, rfl, -⟩ := exists_mark_of_punctuation? marked
    exact settle _ (.mark present) rfl

structure Lexes (definition : String) : Prop where
  mem_iff : ∀ token, token ∈ tokens definition ↔ Lexeme definition.toList token
  ordered : (tokens definition).Pairwise fun left right => left.position < right.position
  reported_iff : ∀ diagnostic, diagnostic ∈ tokenDiagnostics definition ↔
    ∃ offset c, definition.toList[offset]? = some c ∧ ¬ IsLegible c ∧
      diagnostic = badCharacter definition offset c
  inOrder : (tokenDiagnostics definition).Pairwise fun left right =>
    IsBefore left.offset right.offset

theorem mem_tokenDiagnostics_iff {diagnostic : Diagnostic} :
    diagnostic ∈ tokenDiagnostics definition ↔
      ∃ offset c, definition.toList[offset]? = some c ∧ ¬ IsLegible c ∧
        diagnostic = badCharacter definition offset c := by
  rw [tokenDiagnostics, List.mem_map]
  constructor
  · rintro ⟨⟨c, offset⟩, bad, rfl⟩
    obtain ⟨present, refused⟩ := mem_badCharacters_iff.mp bad
    refine ⟨offset, c, present, ?_, rfl⟩
    rw [← isAccepted_iff, refused]
    exact Bool.false_ne_true
  · rintro ⟨offset, c, present, illegible, rfl⟩
    refine ⟨(c, offset), mem_badCharacters_iff.mpr ⟨present, ?_⟩, rfl⟩
    rwa [← isAccepted_iff, Bool.not_eq_true] at illegible

theorem lexes (definition : String) : Lexes definition where
  mem_iff _ := mem_tokens_iff
  ordered := pairwise_position definition
  reported_iff _ := mem_tokenDiagnostics_iff
  inOrder := pairwise_tokenDiagnostics definition

/-- The tokens of two texts together: those of both, where a number that goes on across the seam is
one number. -/
inductive Seam (first second : String) : Prop
  | apart (apart : AreApart first second)
      (both : tokens (first ++ second) =
        tokens first ++ (tokens second).map (Token.moved first.length)) : Seam first second
  | across (former latter : List Token) (left right : Nat) (start : Int)
      (meets : ¬ AreApart first second)
      (before : tokens first = former ++ [⟨.number, left, start⟩])
      (behind : tokens second = ⟨.number, right, 0⟩ :: latter)
      (both : tokens (first ++ second) = former ++
        ⟨.number,
          (left * Nat.pow 10 (second.toList.takeWhile Text.isAsciiDigit).length + right : Nat),
          start⟩ :: latter.map (Token.moved first.length)) : Seam first second

theorem seam (first second : String) : Seam first second := by
  by_cases apart : AreApart first second
  · exact .apart apart (tokens_append apart)
  obtain ⟨digit, next⟩ := Classical.not_imp.mp apart
  obtain ⟨before, left, ends, starts⟩ := Spelling.exists_of_getLast? digit
  obtain ⟨right, behind, begins, run, stops⟩ :=
    Spelling.exists_of_head? ((Bool.not_eq_false _).mp next)
  have former : tokens first =
      tokens (String.ofList before) ++ [⟨.number, left.value, before.length⟩] := by
    have single := @tokens_of_run before [] ⟨starts, rfl⟩ left
    rwa [List.append_nil, ← ends, String.ofList_toList] at single
  have latter : tokens second = ⟨.number, right.value, 0⟩ ::
      (tokens (String.ofList behind)).map (Token.moved right.digits.length) := by
    have single := tokens_of_leading right stops
    rwa [← begins, String.ofList_toList] at single
  refine .across _ _ left.value right.value before.length apart former latter ?_
  have both : first ++ second =
      String.ofList (before ++ ((left.append right).digits ++ behind)) := by
    rw [← String.toList_inj, String.toList_append, String.toList_ofList, ends, begins]
    simp [Spelling.append]
  have distance : right.digits.length + first.length =
      before.length + (left.append right).digits.length := by
    rw [← String.length_toList, ends, Spelling.append, List.length_append, List.length_append]
    omega
  rw [both, tokens_of_run ⟨starts, stops⟩, Spelling.value_append, ← run, List.map_map,
    Token.moved_comp_moved, distance]

/-- The tokens of every definition are its lexemes, and what is no lexeme and no space is reported.
Two definitions are read beside each other but for a number that they make together. -/
theorem tokens_areLexemes :
    (∀ definition, Lexes definition) ∧
      ∀ first second, Seam first second ∧ tokenDiagnostics (first ++ second) =
        (tokenDiagnostics first).map (Diagnostic.moved (first ++ second) 0) ++
          (tokenDiagnostics second).map (Diagnostic.moved (first ++ second) first.length) :=
  ⟨lexes, fun first second => ⟨seam first second, tokenDiagnostics_append first second⟩⟩

example : tokens ("-1a0" ++ "07,") = [⟨.hyphen, -1, 0⟩, ⟨.number, 1, 1⟩, ⟨.number, 7, 3⟩,
    ⟨.comma, -1, 6⟩] := by decide

end Flipbook.Definition
