import Flipbook.Proofs.Definition.Grammar

/-!
What is read of a definition. Nothing is reported exactly if its characters are legible and its
tokens can become a sentence, and the terms are then those that its commas separate.
-/

namespace Flipbook.Definition

open Token (Kind)

def kinds (definition : String) : List Kind := (tokens definition).map (·.kind)

abbrev Content := Kind × Int

def Token.content (token : Token) : Content := (token.kind, token.value)

def contents (definition : String) : List Content := (tokens definition).map Token.content

theorem kinds_eq (definition : String) : kinds definition = (contents definition).map (·.1) := by
  rw [kinds, contents, List.map_map]
  rfl

def IsLegible (c : Char) : Prop := ('0' ≤ c ∧ c ≤ '9') ∨ c ∈ [',', '-', '(', ')', ' ']

theorem isAccepted_iff {c : Char} : isAccepted c = true ↔ IsLegible c := by
  have mark : (punctuation? c).isSome = true ↔ c ∈ [',', '-', '(', ')'] := by
    unfold punctuation?
    split <;> simp_all
  have digit : (Text.asciiDigit? c).isSome = true ↔ '0' ≤ c ∧ c ≤ '9' := by
    unfold Text.asciiDigit?
    split <;> simp_all
  simp only [isAccepted, IsLegible, Bool.or_eq_true, mark, digit, beq_iff_eq, List.mem_cons,
    List.not_mem_nil, or_false, or_assoc]

theorem tokenDiagnostics_eq_nil_iff {definition : String} :
    tokenDiagnostics definition = [] ↔ ∀ c ∈ definition.toList, IsLegible c := by
  rw [tokenDiagnostics, List.map_eq_nil_iff, badCharacters, List.filter_eq_nil_iff]
  constructor
  · intro accepted c member
    obtain ⟨offset, present⟩ := List.getElem?_of_mem member
    have fits := accepted (c, offset) (List.mem_zipIdx_iff_getElem?.mpr present)
    exact isAccepted_iff.mp (by simpa using fits)
  · rintro legible ⟨c, offset⟩ member
    have fits := legible c (List.mem_of_getElem? (List.mem_zipIdx_iff_getElem?.mp member))
    simp [isAccepted_iff.mpr fits]

theorem Machine.rejected_eq_nil_iff (machine : Machine) (tokens : List Token) :
    (tokens.foldl Machine.step machine).rejected = [] ↔ machine.rejected = [] ∧
      ∃ next, machine.expecting.reads? (tokens.map (·.kind)) = some next := by
  induction tokens generalizing machine with
  | nil => simp [Expecting.reads?]
  | cons token rest ih =>
      rw [List.foldl_cons, ih, List.map_cons, Expecting.reads?]
      cases fits : machine.expecting.next? token.kind with
      | none => simp [Machine.step, fits]
      | some next => simp [Machine.step, fits]

theorem syntaxDiagnostics_eq_nil_iff {definition : String} :
    syntaxDiagnostics (tokens definition) definition = [] ↔ IsViable (kinds definition) := by
  rw [syntaxDiagnostics, List.map_eq_nil_iff, List.reverse_eq_nil_iff, Machine.run,
    Machine.rejected_eq_nil_iff, isViable_iff, kinds]
  simp

theorem termDiagnostics_eq_nil_iff {definition : String} :
    termDiagnostics definition = [] ↔
      (∀ c ∈ definition.toList, IsLegible c) ∧ IsViable (kinds definition) := by
  rw [termDiagnostics, List.append_eq_nil_iff, tokenDiagnostics_eq_nil_iff,
    syntaxDiagnostics_eq_nil_iff]

def numberAfter? (kind : Kind) : List Content → Option Int
  | [] => none
  | (first, _) :: rest =>
    if first = kind then
      match rest with
      | (.number, value) :: _ => some value
      | _ => none
    else numberAfter? kind rest

/-- The term of a segment between commas, if its first number is there. -/
def termOf? : List Content → Option Term
  | (.number, start) :: rest =>
    some
      { start
        stop := (numberAfter? .hyphen rest).getD start
        repeats := (numberAfter? .openParen rest).getD 1 }
  | _ => none

def segments (definition : String) : List (List Content) :=
  (contents definition).splitOnP (·.1 = .comma)

inductive Head : Expecting → List Content → Term → Prop
  | single (start : Int) : Head .afterStart [(.number, start)] ⟨start, start, 1⟩
  | range (start hyphen stop : Int) :
      Head .afterStop [(.number, start), (.hyphen, hyphen), (.number, stop)] ⟨start, stop, 1⟩

inductive Progress : Expecting → List Content → Option Term → Prop
  | start : Progress .start [] none
  | head {expecting : Expecting} {segment : List Content} {term : Term}
      (head : Head expecting segment term) : Progress expecting segment (some term)
  | stop (start hyphen : Int) :
      Progress .stop [(.number, start), (.hyphen, hyphen)] (some ⟨start, start, 1⟩)
  | repeats {expecting : Expecting} {segment : List Content} {term : Term}
      (head : Head expecting segment term) (mark : Int) :
      Progress .repeats (segment ++ [(.openParen, mark)]) (some term)
  | closing {expecting : Expecting} {segment : List Content} {term : Term}
      (head : Head expecting segment term) (mark repeats : Int) :
      Progress .closing (segment ++ [(.openParen, mark), (.number, repeats)])
        (some { term with repeats })
  | separator {expecting : Expecting} {segment : List Content} {term : Term}
      (head : Head expecting segment term) (mark repeats closed : Int) :
      Progress .separator
        (segment ++ [(.openParen, mark), (.number, repeats), (.closeParen, closed)])
        (some { term with repeats })

theorem Progress.termOf?_eq {expecting : Expecting} {segment : List Content} {term : Option Term}
    (progress : Progress expecting segment term) : termOf? segment = term := by
  cases progress with
  | start => rfl
  | stop => rfl
  | head head => cases head <;> rfl
  | repeats head => cases head <;> rfl
  | closing head => cases head <;> rfl
  | separator head => cases head <;> rfl

theorem Progress.step {expecting next : Expecting} {segment : List Content} {term : Option Term}
    {kind : Kind} (progress : Progress expecting segment term)
    (fits : expecting.next? kind = some next) (noComma : kind ≠ .comma) (value : Int)
    (earlier : List Term) :
    ∃ later, Progress next (segment ++ [(kind, value)]) later ∧
      (if kind = .number then expecting.takeNumber value (term.toList ++ earlier)
        else term.toList ++ earlier) = later.toList ++ earlier := by
  cases progress with
  | start =>
      cases kind <;> cases fits
      exact ⟨_, .head (.single value), rfl⟩
  | head head =>
      cases head with
      | single start =>
          cases kind <;> cases fits
          · contradiction
          · exact ⟨_, .stop start value, rfl⟩
          · exact ⟨_, .repeats (.single start) value, rfl⟩
      | range start hyphen stop =>
          cases kind <;> cases fits
          · contradiction
          · exact ⟨_, .repeats (.range start hyphen stop) value, rfl⟩
  | stop start hyphen =>
      cases kind <;> cases fits
      exact ⟨_, .head (.range start hyphen value), rfl⟩
  | @repeats _ _ term head mark =>
      cases kind <;> cases fits
      refine ⟨some { term with repeats := value }, ?_, rfl⟩
      rw [List.append_assoc]
      exact .closing head mark value
  | closing head mark repeats =>
      cases kind <;> cases fits
      refine ⟨_, ?_, rfl⟩
      rw [List.append_assoc]
      exact .separator head mark repeats value
  | separator head mark repeats closed =>
      cases kind <;> cases fits
      contradiction

theorem Expecting.eq_start_of_next?_comma {expecting next : Expecting}
    (fits : expecting.next? .comma = some next) : next = .start := by
  cases expecting <;> cases fits <;> rfl

theorem splitOnP_append_singleton {α : Type} {p : α → Bool} {x : α} (stays : p x = false)
    {list : List α} {segments : List (List α)} {segment : List α}
    (split : list.splitOnP p = segments ++ [segment]) :
    (list ++ [x]).splitOnP p = segments ++ [segment ++ [x]] := by
  induction list generalizing segments segment with
  | nil =>
      have whole : [] ++ [[]] = segments ++ [segment] := split
      obtain ⟨rfl, single⟩ := List.append_inj' whole rfl
      rw [← List.head_eq_of_cons_eq single]
      simp [List.splitOnP_cons_eq_if_modifyHead, stays]
  | cons first rest ih =>
      obtain ⟨others, last, tail⟩ : ∃ others last, rest.splitOnP p = others ++ [last] :=
        ⟨_, _, (List.dropLast_concat_getLast (List.splitOnP_ne_nil p rest)).symm⟩
      rw [List.cons_append, List.splitOnP_cons_eq_if_modifyHead, ih tail]
      rw [List.splitOnP_cons_eq_if_modifyHead, tail] at split
      by_cases separates : p first = true
      · rw [if_pos separates] at split ⊢
        have whole : ([] :: others) ++ [last] = segments ++ [segment] := split
        obtain ⟨rfl, single⟩ := List.append_inj' whole rfl
        rw [← List.head_eq_of_cons_eq single, List.cons_append]
      · rw [if_neg separates] at split ⊢
        cases others with
        | nil =>
            have whole : [] ++ [first :: last] = segments ++ [segment] := split
            obtain ⟨rfl, single⟩ := List.append_inj' whole rfl
            rw [← List.head_eq_of_cons_eq single]
            rfl
        | cons other others =>
            have whole : ((first :: other) :: others) ++ [last] = segments ++ [segment] := split
            obtain ⟨rfl, single⟩ := List.append_inj' whole rfl
            rw [← List.head_eq_of_cons_eq single]
            rfl

/-- How far a machine has come that read some contents: the terms of all segments but the last one
are there, and the last segment has begun its own. -/
def HasRead (machine : Machine) (contents : List Content) : Prop :=
  ∃ segments segment term, contents.splitOnP (·.1 = .comma) = segments ++ [segment] ∧
    Progress machine.expecting segment term ∧
    machine.terms = term.toList ++ (segments.filterMap termOf?).reverse

theorem HasRead.step {machine : Machine} {contents : List Content} {token : Token}
    {next : Expecting} (read : HasRead machine contents)
    (fits : machine.expecting.next? token.kind = some next) :
    HasRead (machine.step token) (contents ++ [token.content]) ∧
      (machine.step token).expecting = next := by
  obtain ⟨segments, segment, term, split, progress, terms⟩ := read
  refine ⟨?_, by simp [Machine.step, fits]⟩
  by_cases comma : token.kind = .comma
  · refine ⟨segments ++ [segment], [], none, ?_, ?_, ?_⟩
    · rw [List.splitOnP_append_cons contents [] (by simp [Token.content, comma]), split]
      rfl
    · rw [comma] at fits
      have start := Expecting.eq_start_of_next?_comma fits
      simpa [Machine.step, comma, fits, start] using Progress.start
    · rw [comma] at fits
      cases term <;> simp [Machine.step, comma, fits, terms, progress.termOf?_eq]
  · obtain ⟨later, after, taken⟩ := progress.step fits comma token.value
      (segments.filterMap termOf?).reverse
    refine ⟨segments, segment ++ [token.content], later, ?_, ?_, ?_⟩
    · exact splitOnP_append_singleton (by simp [Token.content, comma]) split
    · simpa [Machine.step, fits, Token.content] using after
    · rw [← taken, ← terms]
      simp [Machine.step, fits]

theorem HasRead.foldl {machine : Machine} {before : List Content} {tokens : List Token}
    {last : Expecting} (read : HasRead machine before)
    (fit : machine.expecting.reads? (tokens.map (·.kind)) = some last) :
    HasRead (tokens.foldl Machine.step machine)
      (before ++ tokens.map Token.content) := by
  induction tokens generalizing machine before with
  | nil => simpa using read
  | cons token rest ih =>
      rw [List.map_cons, Expecting.reads?] at fit
      obtain ⟨next, fits, fit⟩ := Option.bind_eq_some_iff.mp fit
      obtain ⟨after, expecting⟩ := read.step fits
      have following := ih after (expecting ▸ fit)
      rwa [List.append_assoc] at following

theorem terms_eq_of_isViable {definition : String} (viable : IsViable (kinds definition)) :
    terms definition = (segments definition).filterMap termOf? := by
  obtain ⟨last, fit⟩ := isViable_iff.mp viable
  have nothing : HasRead {} [] := ⟨[], [], none, rfl, .start, rfl⟩
  obtain ⟨earlier, segment, term, split, progress, read⟩ := nothing.foldl fit
  rw [terms, termsOfTokens, Machine.run, read, segments]
  rw [List.nil_append] at split
  rw [contents, split, List.filterMap_append, List.reverse_append, List.reverse_reverse]
  cases term <;> simp [progress.termOf?_eq]

end Flipbook.Definition
