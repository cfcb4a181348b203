import Flipbook.Proofs.Definition.Recovery

/-!
Definitions put together from two texts. The second one is read as if it stood alone, with its
tokens further on, unless a number goes on across the seam.
-/

namespace Flipbook

def Diagnostic.moved (source : String) (distance : Nat) (diagnostic : Diagnostic) : Diagnostic :=
  { diagnostic with
    source := some source
    offset := diagnostic.offset.map (· + (distance : Int)) }

namespace Definition

open Token (Kind)

def Token.moved (distance : Nat) (token : Token) : Token :=
  { token with position := token.position + distance }

theorem Token.moved_zero (token : Token) : token.moved 0 = token := by simp [moved]

theorem Token.moved_moved (near far : Nat) (token : Token) :
    (token.moved near).moved far = token.moved (near + far) := by
  simp [moved, Int.add_assoc]

theorem Token.moved_comp_moved (near far : Nat) : moved far ∘ moved near = moved (near + far) :=
  funext fun token => token.moved_moved near far

def Scan.after (scan : Scan) (distance : Nat) (earlier : List Token) : Scan where
  offset := distance + scan.offset
  tokens := scan.tokens.map (Token.moved distance) ++ earlier
  inNumber := scan.inNumber

variable {text rest : List Char} {scan : Scan} {c : Char}

theorem Scan.digit_after (filled : scan.inNumber = true → scan.tokens ≠ []) (distance : Nat)
    (earlier : List Token) (value : Nat) :
    (scan.after distance earlier).digit value = (scan.digit value).after distance earlier := by
  obtain ⟨offset, tokens, inNumber⟩ := scan
  cases inNumber with
  | false => simp [digit, after, Token.moved, Int.add_comm, Nat.add_assoc]
  | true =>
      cases tokens with
      | nil => exact absurd rfl (filled rfl)
      | cons token others => simp [digit, after, Token.moved, Nat.add_assoc]

theorem Scan.step_after (filled : scan.inNumber = true → scan.tokens ≠ []) (distance : Nat)
    (earlier : List Token) (c : Char) :
    (scan.after distance earlier).step c = (scan.step c).after distance earlier := by
  unfold step
  cases Text.asciiDigit? c with
  | some value => exact digit_after filled distance earlier value
  | none =>
      cases punctuation? c <;> simp [after, Token.moved, Int.add_comm, Nat.add_assoc]

theorem Scan.Stands.foldl_after (stands : scan.Stands text) (distance : Nat)
    (earlier : List Token) (rest : List Char) :
    rest.foldl Scan.step (scan.after distance earlier) =
      (rest.foldl Scan.step scan).after distance earlier := by
  induction rest generalizing text scan with
  | nil => rfl
  | cons c rest ih =>
      rw [List.foldl_cons, List.foldl_cons, step_after stands.filled, ih (stands.step c)]

/-- Whether no number goes on from one text into the other. -/
def AreApart (first second : String) : Prop :=
  first.toList.getLast?.any Text.isAsciiDigit = true →
    second.toList.head?.any Text.isAsciiDigit = false

instance (first second : String) : Decidable (AreApart first second) :=
  inferInstanceAs (Decidable (_ → _))

theorem Scan.Stands.step_eq_after (stands : scan.Stands text)
    (fresh : scan.inNumber = true → Text.isAsciiDigit c = false) :
    scan.step c = (Scan.step {} c).after text.length scan.tokens := by
  obtain ⟨offset, tokens, inNumber⟩ := scan
  obtain rfl : offset = text.length := stands.offset_eq
  cases digit : Text.asciiDigit? c with
  | some value =>
      obtain rfl : inNumber = false := by
        rw [Text.isAsciiDigit, digit] at fresh
        simpa using fresh
      simp [Scan.step, digit, Scan.digit, after, Token.moved]
  | none => cases mark : punctuation? c <;> simp [Scan.step, digit, mark, after, Token.moved]

theorem tokens_append {first second : String} (apart : AreApart first second) :
    tokens (first ++ second) =
      tokens first ++ (tokens second).map (Token.moved first.length) := by
  have stands := Scan.stands_foldl first.toList
  rw [tokens, tokens, tokens, String.toList_append, List.foldl_append, ← String.length_toList]
  cases following : second.toList with
  | nil => simp
  | cons c rest =>
      have fresh : (first.toList.foldl Scan.step {}).inNumber = true →
          Text.isAsciiDigit c = false := by
        rw [stands.inNumber_eq]
        simpa [AreApart, following] using apart
      have begun : (Scan.step {} c).Stands [c] := Scan.stands_foldl [c]
      rw [List.foldl_cons, List.foldl_cons, stands.step_eq_after fresh, begun.foldl_after]
      simp [Scan.after]

theorem tokens_append_mark {mark : String} (single : mark.toList = [c])
    (noDigit : Text.isAsciiDigit c = false) (first second : String) :
    tokens (first ++ (mark ++ second)) = tokens first ++
      ((tokens mark).map (Token.moved first.length) ++
        (tokens second).map (Token.moved (first.length + 1))) := by
  have before : AreApart first (mark ++ second) := by
    simp [AreApart, String.toList_append, single, noDigit]
  have behind : AreApart mark second := by simp [AreApart, single, noDigit]
  have length : mark.length = 1 := by simp [← String.length_toList, single]
  rw [tokens_append before, tokens_append behind, length, List.map_append, List.map_map,
    Token.moved_comp_moved, Nat.add_comm 1]

theorem badCharacters_append (first second : String) :
    badCharacters (first ++ second) = badCharacters first ++
      (badCharacters second).map (Prod.map id (· + first.length)) := by
  have later : second.toList.zipIdx (0 + first.length) =
      second.toList.zipIdx.map (Prod.map id (· + first.length)) := by
    rw [List.map_snd_add_zipIdx_eq_zipIdx, Nat.add_comm]
  rw [badCharacters, String.toList_append, List.zipIdx_append, String.length_toList, later,
    List.filter_append, List.filter_map]
  rfl

theorem tokenDiagnostics_append (first second : String) :
    tokenDiagnostics (first ++ second) =
      (tokenDiagnostics first).map (Diagnostic.moved (first ++ second) 0) ++
        (tokenDiagnostics second).map (Diagnostic.moved (first ++ second) first.length) := by
  rw [tokenDiagnostics, badCharacters_append, List.map_append, tokenDiagnostics, tokenDiagnostics,
    List.map_map, List.map_map, List.map_map]
  rfl

def Machine.after (machine : Machine) (earlier : List Term)
    (reported : List (Expecting × Token)) : Machine :=
  { machine with
    terms := machine.terms ++ earlier
    rejected := machine.rejected ++ reported }

def Machine.IsStarted (machine : Machine) : Prop := machine.expecting ≠ .start → machine.terms ≠ []

variable {machine : Machine} {token : Token} {next : Expecting}

theorem Expecting.takeNumber_append {expecting : Expecting} {given : List Term}
    (started : expecting ≠ .start → given ≠ []) (value : Int) (earlier : List Term) :
    expecting.takeNumber value (given ++ earlier) =
      expecting.takeNumber value given ++ earlier := by
  cases given with
  | nil =>
      obtain rfl : expecting = .start := Decidable.byContradiction fun later => started later rfl
      rfl
  | cons latest others => cases expecting <;> rfl

theorem Machine.IsStarted.step_after (started : machine.IsStarted) (token : Token)
    (earlier : List Term) (reported : List (Expecting × Token)) :
    (machine.after earlier reported).step token =
      (machine.step token).after earlier reported := by
  have same : (machine.after earlier reported).expecting = machine.expecting := rfl
  cases fits : machine.expecting.next? token.kind with
  | none =>
      rw [step_of_misfit fits, step_of_misfit (same ▸ fits)]
      rfl
  | some next =>
      have taken := Expecting.takeNumber_append started token.value earlier
      rw [step_of_fits fits, step_of_fits (same ▸ fits)]
      by_cases number : token.kind = .number <;> simp [after, number, taken]

theorem Machine.IsStarted.step (started : machine.IsStarted) (token : Token) :
    (machine.step token).IsStarted := by
  cases fits : machine.expecting.next? token.kind with
  | none =>
      rw [step_of_misfit fits]
      exact started
  | some next =>
      rw [step_of_fits fits]
      obtain ⟨expecting, given, rejected⟩ := machine
      intro _
      cases given with
      | nil =>
          obtain rfl : expecting = .start :=
            Decidable.byContradiction fun later => started later rfl
          cases kind : token.kind <;> rw [kind] at fits <;> cases fits
          exact List.cons_ne_nil _ _
      | cons latest others =>
          dsimp only
          split
          · cases expecting <;> exact List.cons_ne_nil _ _
          · exact List.cons_ne_nil _ _

theorem Machine.IsStarted.foldl_after (started : machine.IsStarted) (given : List Token)
    (earlier : List Term) (reported : List (Expecting × Token)) :
    given.foldl Machine.step (machine.after earlier reported) =
      (given.foldl Machine.step machine).after earlier reported := by
  induction given generalizing machine with
  | nil => rfl
  | cons token rest ih =>
      rw [List.foldl_cons, List.foldl_cons, started.step_after, ih (started.step token)]

/-- Two machines that differ in the tokens they report, which are related one by one. -/
structure Machine.Matches (related : Token → Token → Prop) (left right : Machine) : Prop where
  expecting : left.expecting = right.expecting
  terms : left.terms = right.terms
  rejected : List.Forall₂ (fun former latter => former.1 = latter.1 ∧ related former.2 latter.2)
    left.rejected right.rejected

section Related

variable {related : Token → Token → Prop} {left right : Machine} {former latter : Token}

theorem Machine.Matches.step (alike : former.content = latter.content)
    (mates : left.Matches related right) (pair : related former latter) :
    (left.step former).Matches related (right.step latter) := by
  obtain ⟨expecting, given, rejected⟩ := left
  obtain ⟨_, _, others⟩ := right
  obtain ⟨rfl, rfl, reported⟩ := mates
  obtain ⟨kind, value⟩ := Prod.mk.inj alike
  unfold Machine.step
  rw [← kind, ← value]
  dsimp only at reported ⊢
  split
  · exact ⟨rfl, rfl, .cons ⟨rfl, pair⟩ reported⟩
  · exact ⟨rfl, rfl, reported⟩

theorem Machine.Matches.foldl {given others : List Token}
    (alike : ∀ former latter, related former latter → former.content = latter.content)
    (mates : left.Matches related right) (pairs : List.Forall₂ related given others) :
    (given.foldl Machine.step left).Matches related (others.foldl Machine.step right) := by
  induction pairs generalizing left right with
  | nil => exact mates
  | cons pair _ ih => exact ih (mates.step (alike _ _ pair) pair)

theorem Machine.Matches.map_rejected {α : Type} {first second : Expecting × Token → α}
    (same : ∀ expecting former latter,
      related former latter → first (expecting, former) = second (expecting, latter))
    (mates : left.Matches related right) :
    left.rejected.reverse.map first = right.rejected.reverse.map second := by
  have pairs := mates.rejected
  generalize left.rejected = given at pairs
  generalize right.rejected = others at pairs
  rw [List.map_reverse, List.map_reverse]
  congr 1
  induction pairs with
  | nil => rfl
  | @cons former latter _ _ pair _ ih =>
      obtain ⟨expecting, token⟩ := former
      obtain ⟨_, other⟩ := latter
      obtain ⟨rfl, pair⟩ := pair
      rw [List.map_cons, List.map_cons, same expecting token other pair, ih]

theorem Machine.matches_run {given others : List Token}
    (alike : ∀ former latter, related former latter → former.content = latter.content)
    (pairs : List.Forall₂ related given others) :
    (Machine.run given).Matches related (Machine.run others) :=
  Machine.Matches.foldl alike ⟨rfl, rfl, .nil⟩ pairs

end Related

end Definition

end Flipbook
