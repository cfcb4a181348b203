import Flipbook.Definition.Token
import Flipbook.Text.Numeral
import Mathlib.Data.List.Induction
import Mathlib.Data.List.Nodup

/-!
Where the tokens of a definition stand. A token begins at every mark and at every digit that follows
no other digit, and a character that is neither a space nor refused belongs to one token.
-/

namespace Flipbook.Definition

open Token (Kind)

def isDigitAt (text : List Char) (offset : Nat) : Bool := text[offset]?.any Text.isAsciiDigit

def begins? (text : List Char) (offset : Nat) : Option Kind :=
  if isDigitAt text offset then
    if 0 < offset && isDigitAt text (offset - 1) then none else some .number
  else text[offset]?.bind punctuation?

def places (text : List Char) : List (Int × Kind) :=
  (List.range text.length).filterMap fun offset => (begins? text offset).map ((offset : Int), ·)

def Token.place (token : Token) : Int × Kind := (token.position, token.kind)

variable {text rest : List Char} {offset start : Nat} {c : Char} {kind : Kind}

theorem isDigitAt_of_getElem? (present : text[offset]? = some c) :
    isDigitAt text offset = Text.isAsciiDigit c := by
  simp [isDigitAt, present]

theorem isDigitAt_append_of_lt (inside : offset < text.length) (rest : List Char) :
    isDigitAt (text ++ rest) offset = isDigitAt text offset := by
  rw [isDigitAt, List.getElem?_append_left inside, isDigitAt]

theorem begins?_append_of_lt (inside : offset < text.length) (rest : List Char) :
    begins? (text ++ rest) offset = begins? text offset := by
  have before : offset - 1 < text.length := by omega
  simp only [begins?, isDigitAt_append_of_lt inside, isDigitAt_append_of_lt before,
    List.getElem?_append_left inside]

theorem begins?_length (text : List Char) (c : Char) :
    begins? (text ++ [c]) text.length =
      if Text.isAsciiDigit c then
        if text.getLast?.any Text.isAsciiDigit then none else some .number
      else punctuation? c := by
  have here : (text ++ [c])[text.length]? = some c := by simp
  have before : (0 < text.length && isDigitAt (text ++ [c]) (text.length - 1)) =
      text.getLast?.any Text.isAsciiDigit := by
    by_cases empty : text = []
    · simp [empty]
    · have filled := List.length_pos_iff.mpr empty
      rw [isDigitAt_append_of_lt (by omega), isDigitAt, List.getLast?_eq_getElem?]
      simp [filled]
  rw [begins?, isDigitAt_of_getElem? here, before, here, Option.bind_some]

theorem places_append_singleton (text : List Char) (c : Char) :
    places (text ++ [c]) =
      places text ++ ((begins? (text ++ [c]) text.length).map ((text.length : Int), ·)).toList := by
  have same : ∀ offset ∈ List.range text.length,
      (begins? (text ++ [c]) offset).map ((offset : Int), ·) =
        (begins? text offset).map ((offset : Int), ·) := by
    intro offset inside
    rw [begins?_append_of_lt (List.mem_range.mp inside)]
  rw [places, List.length_append, List.length_singleton, List.range_succ, List.filterMap_append,
    List.filterMap_congr same, places]
  cases begun : begins? (text ++ [c]) text.length <;> simp [begun]

structure Scan.Stands (text : List Char) (scan : Scan) : Prop where
  offset_eq : scan.offset = text.length
  places_eq : scan.tokens.reverse.map Token.place = places text
  inNumber_eq : scan.inNumber = text.getLast?.any Text.isAsciiDigit
  filled : scan.inNumber = true → scan.tokens ≠ []

theorem Scan.Stands.digit {scan : Scan} (stands : scan.Stands text) {value : Nat}
    (digit : Text.asciiDigit? c = some value) : (scan.digit value).Stands (text ++ [c]) := by
  have isDigit : Text.isAsciiDigit c = true := by simp [Text.isAsciiDigit, digit]
  have added := places_append_singleton text c
  rw [begins?_length, if_pos isDigit, ← stands.inNumber_eq] at added
  obtain ⟨offset, tokens, inNumber⟩ := scan
  have length : offset = text.length := stands.offset_eq
  have places := stands.places_eq
  refine ⟨by simp [Scan.digit, length], ?_, by simp [Scan.digit, isDigit], ?_⟩
  · cases inNumber with
    | false => simp_all [Scan.digit, Token.place]
    | true =>
        cases tokens with
        | nil => exact absurd rfl (stands.filled rfl)
        | cons token earlier => simp_all [Scan.digit, Token.place]
  · intro _
    simp only [Scan.digit]
    split <;> simp

theorem Scan.Stands.step {scan : Scan} (stands : scan.Stands text) (c : Char) :
    (scan.step c).Stands (text ++ [c]) := by
  cases digit : Text.asciiDigit? c with
  | some value =>
      have stepped : scan.step c = scan.digit value := by simp [Scan.step, digit]
      rw [stepped]
      exact stands.digit digit
  | none =>
      have noDigit : Text.isAsciiDigit c = false := by simp [Text.isAsciiDigit, digit]
      have added := places_append_singleton text c
      rw [begins?_length, noDigit] at added
      have places := stands.places_eq
      refine ⟨by simp [Scan.step, digit, stands.offset_eq], ?_, by simp [Scan.step, digit, noDigit],
        by simp [Scan.step, digit]⟩
      cases mark : punctuation? c <;>
        simp_all [Scan.step, Token.place, stands.offset_eq]

theorem Scan.stands_foldl (text : List Char) : (text.foldl Scan.step {}).Stands text := by
  induction text using List.reverseRecOn with
  | nil => exact ⟨rfl, rfl, rfl, nofun⟩
  | append_singleton text c ih =>
      rw [List.foldl_append]
      exact ih.step c

theorem places_tokens (definition : String) :
    (tokens definition).map Token.place = places definition.toList :=
  (Scan.stands_foldl definition.toList).places_eq

theorem lt_length_of_begins? (begins : begins? text offset = some kind) : offset < text.length := by
  by_contra outside
  have absent : text[offset]? = none := List.getElem?_eq_none (by omega)
  simp [begins?, isDigitAt, absent] at begins

theorem mem_places_iff {position : Int} : (position, kind) ∈ places text ↔
    ∃ offset : Nat, position = offset ∧ begins? text offset = some kind := by
  simp only [places, List.mem_filterMap, List.mem_range, Option.map_eq_some_iff, Prod.mk.injEq]
  constructor
  · rintro ⟨offset, -, found, begins, rfl, rfl⟩
    exact ⟨offset, rfl, begins⟩
  · rintro ⟨offset, rfl, begins⟩
    exact ⟨offset, lt_length_of_begins? begins, kind, begins, rfl, rfl⟩

theorem pairwise_position (definition : String) :
    (tokens definition).Pairwise fun left right => left.position < right.position := by
  have increasing : (places definition.toList).Pairwise fun left right => left.1 < right.1 := by
    refine List.Pairwise.filterMap _ ?_ List.pairwise_lt_range
    intro left right less first here second there
    simp only [Option.map_eq_some_iff] at here there
    obtain ⟨_, -, rfl⟩ := here
    obtain ⟨_, -, rfl⟩ := there
    simpa using less
  rw [← places_tokens, List.pairwise_map] at increasing
  exact increasing

theorem exists_begins?_of_mem {definition : String} {token : Token}
    (member : token ∈ tokens definition) : ∃ start : Nat, token.position = start ∧
      begins? definition.toList start = some token.kind := by
  rw [← mem_places_iff, ← places_tokens]
  exact List.mem_map.mpr ⟨token, member, rfl⟩

theorem exists_mem_of_begins? {definition : String}
    (begins : begins? definition.toList start = some kind) :
    ∃ token ∈ tokens definition, token.position = start ∧ token.kind = kind := by
  have member := mem_places_iff.mpr ⟨start, rfl, begins⟩
  rw [← places_tokens] at member
  obtain ⟨token, member, place⟩ := List.mem_map.mp member
  obtain ⟨position, same⟩ := Prod.mk.inj place
  exact ⟨token, member, position, same⟩

/-- How many characters a token takes up, which are all digits of its run for a number. -/
def Token.width (text : List Char) (token : Token) : Nat :=
  match token.kind with
  | .number => ((text.drop token.position.toNat).takeWhile Text.isAsciiDigit).length
  | _ => 1

def Token.covers (text : List Char) (token : Token) (offset : Nat) : Bool :=
  token.position ≤ offset && offset < token.position + token.width text

def isDigitRun (text : List Char) (start stop : Nat) : Prop :=
  ∀ between, start ≤ between → between ≤ stop → isDigitAt text between = true

theorem lt_length_takeWhile_iff {α : Type} {p : α → Bool} {list : List α} {index : Nat} :
    index < (list.takeWhile p).length ↔
      ∀ earlier, earlier ≤ index → list[earlier]?.any p = true := by
  induction list generalizing index with
  | nil =>
      simp only [List.takeWhile_nil, List.length_nil, Nat.not_lt_zero, false_iff]
      intro all
      simpa using all 0 (Nat.zero_le _)
  | cons first rest ih =>
      by_cases holds : p first = true
      · rw [List.takeWhile_cons_of_pos holds, List.length_cons]
        cases index with
        | zero => simp [holds]
        | succ index =>
            rw [Nat.add_lt_add_iff_right, ih]
            constructor
            · intro all earlier bound
              cases earlier with
              | zero => simp [holds]
              | succ earlier => simpa using all earlier (by omega)
            · intro all earlier bound
              simpa using all (earlier + 1) (by omega)
      · rw [List.takeWhile_cons_of_neg holds, List.length_nil]
        simp only [Nat.not_lt_zero, false_iff]
        intro all
        have first := all 0 (Nat.zero_le _)
        simp_all

theorem Token.covers_iff {token : Token} (position : token.position = start) :
    token.covers text offset = true ↔
      if token.kind = .number then start ≤ offset ∧ isDigitRun text start offset
      else start = offset := by
  simp only [covers, width, position, Bool.and_eq_true, decide_eq_true_eq, Int.toNat_natCast]
  cases kind : token.kind with
  | number =>
      simp only [if_true]
      constructor
      · rintro ⟨low, high⟩
        refine ⟨by omega, ?_⟩
        have run := lt_length_takeWhile_iff.mp (show offset - start <
          ((text.drop start).takeWhile Text.isAsciiDigit).length by omega)
        intro between lower upper
        have digit := run (between - start) (by omega)
        rw [List.getElem?_drop, Nat.add_sub_cancel' lower] at digit
        exact digit
      · rintro ⟨low, run⟩
        have inside : offset - start <
            ((text.drop start).takeWhile Text.isAsciiDigit).length := by
          rw [lt_length_takeWhile_iff]
          intro earlier bound
          rw [List.getElem?_drop]
          exact run (start + earlier) (by omega) (by omega)
        omega
  | _ =>
      simp only [reduceCtorEq, if_false]
      omega

theorem exists_begins?_of_isDigitAt (digit : isDigitAt text offset = true) :
    ∃ start, begins? text start = some .number ∧ start ≤ offset ∧
      isDigitRun text start offset := by
  induction offset with
  | zero =>
      refine ⟨0, by simp [begins?, digit], Nat.le_refl _, ?_⟩
      intro between _ upper
      rwa [Nat.le_zero.mp upper]
  | succ offset ih =>
      by_cases before : isDigitAt text offset = true
      · obtain ⟨start, begins, low, run⟩ := ih before
        refine ⟨start, begins, by omega, ?_⟩
        intro between lower upper
        by_cases last : between = offset + 1
        · rwa [last]
        · exact run between lower (by omega)
      · refine ⟨offset + 1, by simp [begins?, digit, before], Nat.le_refl _, ?_⟩
        intro between lower upper
        rwa [show between = offset + 1 by omega]

theorem isDigitAt_of_begins?_number (begins : begins? text start = some .number) :
    isDigitAt text start = true ∧ (0 < start → isDigitAt text (start - 1) = false) := by
  unfold begins? at begins
  split at begins
  next digit =>
      split at begins
      next => contradiction
      next fresh =>
          refine ⟨digit, fun positive => ?_⟩
          simpa [positive] using fresh
  next =>
      obtain ⟨c, -, mark⟩ := Option.bind_eq_some_iff.mp begins
      unfold punctuation? at mark
      split at mark <;> simp_all

theorem isDigitAt_of_begins?_mark (begins : begins? text start = some kind)
    (mark : kind ≠ .number) : isDigitAt text start = false := by
  unfold begins? at begins
  split at begins
  next =>
      split at begins
      next => contradiction
      next => exact absurd (Option.some.inj begins).symm mark
  next noDigit => simpa using noDigit

theorem Token.covers_start {token : Token} (position : token.position = start)
    (begins : begins? text start = some token.kind) : token.covers text start = true := by
  rw [covers_iff position]
  split
  next number =>
      rw [number] at begins
      refine ⟨Nat.le_refl _, fun between lower upper => ?_⟩
      rw [show between = start by omega]
      exact (isDigitAt_of_begins?_number begins).1
  next => rfl

theorem not_lt_of_covers {definition : String} {token other : Token}
    (member : token ∈ tokens definition) (again : other ∈ tokens definition)
    (covers : token.covers definition.toList offset = true)
    (covered : other.covers definition.toList offset = true) :
    ¬ token.position < other.position := by
  obtain ⟨start, position, begins⟩ := exists_begins?_of_mem member
  obtain ⟨next, following, begun⟩ := exists_begins?_of_mem again
  rw [Token.covers_iff position] at covers
  rw [Token.covers_iff following] at covered
  rw [position, following, Int.ofNat_lt]
  intro less
  have upper : next ≤ offset := by
    split at covered
    next => exact covered.1
    next => exact Nat.le_of_eq covered
  split at covers
  next =>
      obtain ⟨-, run⟩ := covers
      by_cases number : other.kind = .number
      · rw [number] at begun
        have fresh := (isDigitAt_of_begins?_number begun).2 (by omega)
        rw [run (next - 1) (by omega) (by omega)] at fresh
        contradiction
      · have noDigit := isDigitAt_of_begins?_mark begun number
        rw [run next (by omega) upper] at noDigit
        contradiction
  next => omega

theorem nodup_positions (definition : String) :
    ((tokens definition).map (·.position)).Nodup := by
  rw [List.nodup_iff_pairwise_ne, List.pairwise_map]
  exact (pairwise_position definition).imp fun less => Int.ne_of_lt less

theorem eq_of_covers {definition : String} {token other : Token}
    (member : token ∈ tokens definition) (again : other ∈ tokens definition)
    (covers : token.covers definition.toList offset = true)
    (covered : other.covers definition.toList offset = true) : token = other := by
  have before := not_lt_of_covers member again covers covered
  have after := not_lt_of_covers again member covered covers
  exact List.inj_on_of_nodup_map (nodup_positions definition) member again (by omega)

theorem countP_eq_one {α : Type} [DecidableEq α] {list : List α} {holds : α → Bool} {only : α}
    (nodup : list.Nodup) (member : only ∈ list) (held : holds only = true)
    (unique : ∀ other ∈ list, holds other = true → other = only) : list.countP holds = 1 := by
  have same : list.countP holds = list.count only := by
    refine List.countP_congr fun other among => ?_
    rw [beq_iff_eq]
    exact ⟨unique other among, fun equal => equal ▸ held⟩
  rw [same, List.count_eq_one_of_mem nodup member]

theorem countP_covers_of_mem {definition : String} {token : Token}
    (member : token ∈ tokens definition)
    (covers : token.covers definition.toList offset = true) :
    (tokens definition).countP (·.covers definition.toList offset) = 1 := by
  refine countP_eq_one (.of_map _ (nodup_positions definition)) member covers ?_
  exact fun other again covered => eq_of_covers again member covered covers

theorem countP_covers {definition : String} (present : definition.toList[offset]? = some c) :
    (tokens definition).countP (·.covers definition.toList offset) =
      if Text.isAsciiDigit c || (punctuation? c).isSome then 1 else 0 := by
  have here := isDigitAt_of_getElem? present
  by_cases digit : Text.isAsciiDigit c = true
  · obtain ⟨start, begins, low, run⟩ := exists_begins?_of_isDigitAt (here.trans digit)
    obtain ⟨token, member, position, kind⟩ := exists_mem_of_begins? begins
    have covers : token.covers definition.toList offset = true := by
      rw [Token.covers_iff position, if_pos kind]
      exact ⟨low, run⟩
    rw [countP_covers_of_mem member covers, digit]
    rfl
  · have noDigit : isDigitAt definition.toList offset = false := by simp [here, digit]
    cases mark : punctuation? c with
    | some kind =>
        have begins : begins? definition.toList offset = some kind := by
          simp [begins?, noDigit, present, mark]
        obtain ⟨token, member, position, same⟩ := exists_mem_of_begins? begins
        have noNumber : token.kind ≠ .number := by
          intro number
          rw [same.symm.trans number] at begins
          rw [(isDigitAt_of_begins?_number begins).1] at noDigit
          contradiction
        have covers : token.covers definition.toList offset = true := by
          rw [Token.covers_iff position, if_neg noNumber]
        rw [countP_covers_of_mem member covers]
        simp
    | none =>
        rw [if_neg (by simp [digit])]
        refine List.countP_eq_zero.mpr fun token member covers => ?_
        obtain ⟨start, position, begins⟩ := exists_begins?_of_mem member
        rw [Token.covers_iff position] at covers
        split at covers
        next =>
            rw [covers.2 offset covers.1 (Nat.le_refl _)] at noDigit
            contradiction
        next =>
            rw [covers] at begins
            simp [begins?, noDigit, present, mark] at begins

theorem pairwise_zipIdx {α : Type} (list : List α) :
    list.zipIdx.Pairwise fun left right => left.2 < right.2 := by
  have increasing : (List.range' 0 list.length).Pairwise (· < ·) := List.pairwise_lt_range' ..
  rw [← List.zipIdx_map_snd 0 list, List.pairwise_map] at increasing
  exact increasing

theorem pairwise_badCharacters (definition : String) :
    (badCharacters definition).Pairwise fun left right => left.2 < right.2 :=
  (pairwise_zipIdx definition.toList).filter _

theorem mem_badCharacters_iff {definition : String} : (c, offset) ∈ badCharacters definition ↔
    definition.toList[offset]? = some c ∧ isAccepted c = false := by
  rw [badCharacters, List.mem_filter, List.mem_zipIdx_iff_getElem?]
  simp

theorem countP_badCharacters {definition : String}
    (present : definition.toList[offset]? = some c) :
    (badCharacters definition).countP (fun bad => bad.2 = offset) =
      if isAccepted c then 0 else 1 := by
  have same : ∀ other ∈ badCharacters definition, other.2 = offset → other = (c, offset) := by
    rintro ⟨other, place⟩ member rfl
    have found := (mem_badCharacters_iff.mp member).1
    rw [Option.some.inj (found.symm.trans present)]
  by_cases accepted : isAccepted c = true
  · rw [if_pos accepted]
    refine List.countP_eq_zero.mpr fun other member place => ?_
    rw [same other member (by simpa using place)] at member
    have refused := (mem_badCharacters_iff.mp member).2
    rw [accepted] at refused
    contradiction
  · have refused : isAccepted c = false := by simpa using accepted
    rw [if_neg accepted]
    have nodup : (badCharacters definition).Nodup :=
      (pairwise_badCharacters definition).imp fun less equal => by
        rw [equal] at less
        exact Nat.lt_irrefl _ less
    refine countP_eq_one nodup (mem_badCharacters_iff.mpr ⟨present, refused⟩) (by simp) ?_
    exact fun other member place => same other member (by simpa using place)

end Flipbook.Definition
