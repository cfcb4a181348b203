import Flipbook.Proofs.Definition.Reading
import Flipbook.Text.Numeral

/-!
Definitions as people write them, with any number of spaces around tokens and any number of zeros in
front of numbers. What is read of them is what was written.
-/

namespace Flipbook.Definition

open Token (Kind)

structure Spelling where
  digits : List Char
  filled : digits ≠ []
  ascii : ∀ c ∈ digits, '0' ≤ c ∧ c ≤ '9'

def Spelling.value (spelling : Spelling) : Nat := Text.digitsValue spelling.digits

inductive Mark
  | comma
  | hyphen
  | openParen
  | closeParen

def Mark.char : Mark → Char
  | .comma => ','
  | .hyphen => '-'
  | .openParen => '('
  | .closeParen => ')'

def Mark.kind : Mark → Kind
  | .comma => .comma
  | .hyphen => .hyphen
  | .openParen => .openParen
  | .closeParen => .closeParen

def spaces (count : Nat) : List Char := List.replicate count ' '

/-- A mark after some spaces, and the number after it if there is one, with the spaces between. -/
structure Link where
  gap : Nat
  mark : Mark
  number : Option (Nat × Spelling) := none

namespace Link

def chars (link : Link) : List Char :=
  spaces link.gap ++ link.mark.char ::
    match link.number with
    | some (gap, spelling) => spaces gap ++ spelling.digits
    | none => []

def contents (link : Link) : List Content :=
  (link.mark.kind, -1) ::
    match link.number with
    | some (_, spelling) => [(.number, spelling.value)]
    | none => []

end Link

def Scan.contents (scan : Scan) : List Content := scan.tokens.map Token.content

theorem Scan.contents_foldl_digits {digits : List Char} {scan : Scan} {token : Token}
    {earlier : List Token} {value : Nat} (ascii : ∀ c ∈ digits, '0' ≤ c ∧ c ≤ '9')
    (inNumber : scan.inNumber = true) (tokens : scan.tokens = token :: earlier)
    (current : token.value = value) :
    (digits.foldl Scan.step scan).contents = (token.kind,
      ((digits.foldl (fun value c => value * 10 + (Text.asciiDigit? c).getD 0) value : Nat) : Int))
        :: earlier.map Token.content := by
  induction digits generalizing scan token value with
  | nil => simp [Scan.contents, tokens, current, Token.content]
  | cons c rest ih =>
      have digit : Text.asciiDigit? c = some (c.toNat - 48) := by
        simp [Text.asciiDigit?, ascii c List.mem_cons_self]
      have stepped : Scan.step scan c = scan.digit (c.toNat - 48) := by
        simp [Scan.step, digit]
      rw [List.foldl_cons, List.foldl_cons, stepped, digit]
      have longer : (scan.digit (c.toNat - 48)).tokens =
          { token with value := token.value * 10 + (c.toNat - 48 : Nat) } :: earlier := by
        simp [Scan.digit, inNumber, tokens]
      have sum : token.value * 10 + (c.toNat - 48 : Nat) =
          ((value * 10 + (c.toNat - 48) : Nat) : Int) := by
        rw [current]
        omega
      have following := ih (fun c member => ascii c (List.mem_cons_of_mem _ member)) rfl longer sum
      exact following

theorem Scan.contents_foldl_spelling {scan : Scan} (fresh : scan.inNumber = false)
    (spelling : Spelling) : (spelling.digits.foldl Scan.step scan).contents =
      (.number, (spelling.value : Int)) :: scan.contents := by
  obtain ⟨digits, filled, ascii⟩ := spelling
  cases digits with
  | nil => contradiction
  | cons c rest =>
      have digit : Text.asciiDigit? c = some (c.toNat - 48) := by
        simp [Text.asciiDigit?, ascii c List.mem_cons_self]
      have stepped : Scan.step scan c = scan.digit (c.toNat - 48) := by
        simp [Scan.step, digit]
      rw [List.foldl_cons, stepped]
      have tokens : (scan.digit (c.toNat - 48)).tokens =
          ⟨.number, (c.toNat - 48 : Nat), scan.offset⟩ :: scan.tokens := by
        simp [Scan.digit, fresh]
      rw [contents_foldl_digits (fun c member => ascii c (List.mem_cons_of_mem _ member)) rfl
        tokens rfl]
      simp [Spelling.value, Text.digitsValue, digit, Scan.contents]

theorem Scan.foldl_spaces (scan : Scan) (count : Nat) :
    ((spaces count).foldl Scan.step scan).contents = scan.contents ∧
      (scan.inNumber = false → ((spaces count).foldl Scan.step scan).inNumber = false) := by
  induction count generalizing scan with
  | zero => exact ⟨rfl, id⟩
  | succ count ih =>
      obtain ⟨contents, fresh⟩ := ih (scan.step ' ')
      rw [spaces, List.replicate_succ, List.foldl_cons]
      exact ⟨contents, fun _ => fresh rfl⟩

theorem Scan.contents_foldl_number {scan : Scan} (fresh : scan.inNumber = false) (gap : Nat)
    (spelling : Spelling) : ((spaces gap ++ spelling.digits).foldl Scan.step scan).contents =
      (.number, (spelling.value : Int)) :: scan.contents := by
  obtain ⟨contents, still⟩ := scan.foldl_spaces gap
  rw [List.foldl_append, contents_foldl_spelling (still fresh), contents]

theorem Scan.step_mark (scan : Scan) (mark : Mark) :
    (scan.step mark.char).contents = (mark.kind, -1) :: scan.contents ∧
      (scan.step mark.char).inNumber = false := by
  cases mark <;> exact ⟨rfl, rfl⟩

theorem Scan.contents_foldl_link (scan : Scan) (link : Link) :
    (link.chars.foldl Scan.step scan).contents = link.contents.reverse ++ scan.contents := by
  obtain ⟨gap, mark, number⟩ := link
  obtain ⟨blank, -⟩ := scan.foldl_spaces gap
  obtain ⟨marked, fresh⟩ := ((spaces gap).foldl Scan.step scan).step_mark mark
  rw [Link.chars, List.foldl_append, List.foldl_cons]
  cases number with
  | none => simp [Link.contents, marked, blank]
  | some number =>
      obtain ⟨inner, spelling⟩ := number
      rw [contents_foldl_number fresh, marked, blank]
      rfl

theorem Scan.contents_foldl_links (scan : Scan) (links : List Link) :
    ((links.flatMap Link.chars).foldl Scan.step scan).contents =
      (links.flatMap Link.contents).reverse ++ scan.contents := by
  induction links generalizing scan with
  | nil => rfl
  | cons link rest ih =>
      rw [List.flatMap_cons, List.foldl_append, ih, contents_foldl_link, List.flatMap_cons,
        List.reverse_append, List.append_assoc]

/-- A term as it is written. The counts are those of the spaces before the tokens. -/
structure WrittenTerm where
  gap : Nat
  start : Spelling
  stop : Option (Nat × Nat × Spelling) := none
  repeats : Option (Nat × Nat × Spelling × Nat) := none

namespace WrittenTerm

def links (term : WrittenTerm) : List Link :=
  (match term.stop with
    | some (gap, inner, spelling) => [⟨gap, .hyphen, some (inner, spelling)⟩]
    | none => []) ++
    match term.repeats with
    | some (gap, inner, spelling, closing) =>
      [⟨gap, .openParen, some (inner, spelling)⟩, ⟨closing, .closeParen, none⟩]
    | none => []

def contents (term : WrittenTerm) : List Content :=
  (.number, term.start.value) :: term.links.flatMap Link.contents

def term (written : WrittenTerm) : Term where
  start := written.start.value
  stop := (written.stop.elim written.start fun stop => stop.2.2).value
  repeats := written.repeats.elim 1 fun repeats => repeats.2.2.1.value

theorem termOf?_contents (written : WrittenTerm) :
    termOf? written.contents = some written.term := by
  obtain ⟨gap, start, stop, repeats⟩ := written
  cases stop <;> cases repeats <;> rfl

theorem exists_parts (written : WrittenTerm) : ∃ stop repeats, StopPart stop ∧
    RepeatsPart repeats ∧ written.contents.map (·.1) = .number :: stop ++ repeats := by
  obtain ⟨gap, start, stop, repeats⟩ := written
  cases stop <;> cases repeats
  · exact ⟨_, _, .absent, .absent, rfl⟩
  · exact ⟨_, _, .absent, .present, rfl⟩
  · exact ⟨_, _, .present, .absent, rfl⟩
  · exact ⟨_, _, .present, .present, rfl⟩

theorem not_comma (written : WrittenTerm) : ∀ content ∈ written.contents, content.1 ≠ .comma := by
  obtain ⟨gap, start, stop, repeats⟩ := written
  cases stop <;> cases repeats <;> simp [contents, links, Link.contents, Mark.kind]

end WrittenTerm

/-- A definition as it is written, with at least one term and spaces before each comma and after the
last term. -/
structure WrittenDefinition where
  first : WrittenTerm
  rest : List (Nat × WrittenTerm) := []
  trailing : Nat := 0

namespace WrittenDefinition

def links (written : WrittenDefinition) : List Link :=
  written.first.links ++ written.rest.flatMap fun (gap, term) =>
    ⟨gap, .comma, some (term.gap, term.start)⟩ :: term.links

def text (written : WrittenDefinition) : String :=
  String.ofList (spaces written.first.gap ++ written.first.start.digits ++
    written.links.flatMap Link.chars ++ spaces written.trailing)

def terms (written : WrittenDefinition) : List Term :=
  written.first.term :: written.rest.map fun (_, term) => term.term

theorem contents_text (written : WrittenDefinition) :
    contents written.text = written.first.contents ++
      written.rest.flatMap fun (_, term) => (.comma, -1) :: term.contents := by
  obtain ⟨first, rest, trailing⟩ := written
  have read : contents (text ⟨first, rest, trailing⟩) = (.number, (first.start.value : Int)) ::
      (links ⟨first, rest, trailing⟩).flatMap Link.contents := by
    rw [contents, tokens, List.map_reverse, text, String.toList_ofList, List.foldl_append,
      List.foldl_append]
    have trail := Scan.foldl_spaces
      (((links ⟨first, rest, trailing⟩).flatMap Link.chars).foldl Scan.step
        ((spaces first.gap ++ first.start.digits).foldl Scan.step {})) trailing
    rw [← Scan.contents, trail.1, Scan.contents_foldl_links, Scan.contents_foldl_number rfl]
    simp [Scan.contents]
  rw [read, links, List.flatMap_append, List.flatMap_assoc]
  rfl

theorem segments_text (written : WrittenDefinition) : segments written.text =
    written.first.contents :: written.rest.map fun (_, term) => term.contents := by
  obtain ⟨first, rest, trailing⟩ := written
  rw [segments, contents_text]
  dsimp only
  clear trailing
  induction rest generalizing first with
  | nil =>
      rw [List.flatMap_nil, List.append_nil, List.map_nil]
      exact List.splitOnP_eq_singleton fun content member => by
        simpa using first.not_comma content member
  | cons next rest ih =>
      obtain ⟨gap, term⟩ := next
      rw [List.flatMap_cons, List.cons_append, List.splitOnP_append_cons_of_forall_mem, ih term,
        List.map_cons]
      · exact fun content member => by simpa using first.not_comma content member
      · simp

theorem sentence_text (written : WrittenDefinition) : Sentence (kinds written.text) := by
  rw [kinds_eq, contents_text]
  obtain ⟨first, rest, trailing⟩ := written
  dsimp only
  clear trailing
  induction rest generalizing first with
  | nil =>
      obtain ⟨stop, repeats, stops, repeated, parts⟩ := first.exists_parts
      rw [List.flatMap_nil, List.append_nil, parts]
      exact .single stops repeated
  | cons next rest ih =>
      obtain ⟨stop, repeats, stops, repeated, parts⟩ := first.exists_parts
      have following := Sentence.more stops repeated (ih next.2)
      simpa [parts] using following

theorem isLegible_text (written : WrittenDefinition) : ∀ c ∈ written.text.toList, IsLegible c := by
  have space : ∀ count, ∀ c ∈ spaces count, IsLegible c := by
    intro count c member
    rw [List.eq_of_mem_replicate member]
    exact .inr (by simp)
  have number : ∀ gap (spelling : Spelling), ∀ c ∈ spaces gap ++ spelling.digits, IsLegible c := by
    intro gap spelling c member
    rcases List.mem_append.mp member with blank | digit
    · exact space gap c blank
    · exact .inl (spelling.ascii c digit)
  have link : ∀ link : Link, ∀ c ∈ link.chars, IsLegible c := by
    rintro ⟨gap, mark, following⟩ c member
    rcases List.mem_append.mp member with blank | rest
    · exact space gap c blank
    · rcases List.mem_cons.mp rest with rfl | rest
      · exact .inr (by cases mark <;> simp [Mark.char])
      · cases following with
        | none => contradiction
        | some following => exact number _ _ c rest
  intro c member
  rw [text, String.toList_ofList, List.mem_append, List.mem_append] at member
  rcases member with (start | links) | blank
  · exact number _ _ c start
  · obtain ⟨one, _, member⟩ := List.mem_flatMap.mp links
    exact link one c member
  · exact space _ c blank

theorem terms_text (written : WrittenDefinition) :
    (segments written.text).filterMap termOf? = written.terms := by
  have each : (termOf? ∘ fun (next : Nat × WrittenTerm) => next.2.contents) =
      some ∘ fun next => next.2.term :=
    funext fun next => next.2.termOf?_contents
  rw [segments_text, List.filterMap_cons_some written.first.termOf?_contents, List.filterMap_map,
    each, List.filterMap_eq_map]
  rfl

theorem read_text (written : WrittenDefinition) :
    Definition.terms written.text = written.terms ∧ termDiagnostics written.text = [] := by
  have viable : IsViable (kinds written.text) :=
    ⟨[], by rw [List.append_nil]; exact written.sentence_text⟩
  refine ⟨?_, termDiagnostics_eq_nil_iff.mpr ⟨written.isLegible_text, viable⟩⟩
  rw [terms_eq_of_isViable viable, written.terms_text]

end WrittenDefinition

/-- Nothing is reported for the legible beginnings of sentences and for them only, their terms are
those between their commas, and a definition that was written comes back as it was meant. -/
theorem reading_correct :
    (∀ definition, termDiagnostics definition = [] ↔
      (∀ c ∈ definition.toList, IsLegible c) ∧ IsViable (kinds definition)) ∧
    (∀ definition, termDiagnostics definition = [] →
      terms definition = (segments definition).filterMap termOf?) ∧
    ∀ written : WrittenDefinition,
      terms written.text = written.terms ∧ termDiagnostics written.text = [] := by
  refine ⟨fun _ => termDiagnostics_eq_nil_iff, ?_, ?_⟩
  · intro definition quiet
    exact terms_eq_of_isViable (termDiagnostics_eq_nil_iff.mp quiet).2
  · exact WrittenDefinition.read_text

theorem reading_correct_of_range :
    terms "1 - 02(3),4" = [⟨1, 2, 3⟩, ⟨4, 4, 1⟩] ∧ termDiagnostics "1 - 02(3),4" = [] := by
  let spelling (digit : Char) (ascii : '0' ≤ digit ∧ digit ≤ '9') : Spelling :=
    { digits := [digit], filled := by simp, ascii := by simpa using ascii }
  let two : Spelling := { digits := ['0', '2'], filled := by simp, ascii := by simp }
  exact reading_correct.2.2
    { first :=
        { gap := 0
          start := spelling '1' (by decide)
          stop := some (1, 1, two)
          repeats := some (0, 0, spelling '3' (by decide), 0) }
      rest := [(0, { gap := 0, start := spelling '4' (by decide) })] }

end Flipbook.Definition
