import Flipbook.Proofs.Frame.Sorting
import Flipbook.Proofs.Text.Numeral

/-!
The two orders of a group beside each other. They have the same members, and they are the same order
if all names of the group have one length, as names with zeros in front of their numbers do.
-/

namespace Flipbook

namespace Text

variable {left right : List Char}

theorem digitsValue_cons {c : Char} {rest : List Char}
    (ascii : ∀ d ∈ c :: rest, isAsciiDigit d = true) :
    digitsValue (c :: rest) = Nat.pow 10 rest.length * (c.toNat - 48) + digitsValue rest := by
  have digits : ∀ d ∈ c :: rest, '0' ≤ d ∧ d ≤ '9' := fun d member =>
    isAsciiDigit_iff.mp (ascii d member)
  obtain ⟨digit, others⟩ := List.forall_mem_cons.mp digits
  have single : digitsValue [c] = c.toNat - 48 := by simp [digitsValue, asciiDigit?, digit]
  rw [← List.singleton_append, digitsValue_append (List.forall_mem_singleton.mpr digit) others,
    single, Nat.mul_comm]

theorem lt_of_digitsValue_lt (length : left.length = right.length)
    (ascii : ∀ c ∈ left, isAsciiDigit c = true) (digits : ∀ c ∈ right, isAsciiDigit c = true)
    (lower : digitsValue left < digitsValue right) : left < right := by
  induction left generalizing right with
  | nil =>
      obtain rfl : right = [] := List.length_eq_zero_iff.mp length.symm
      exact absurd lower (Nat.lt_irrefl _)
  | cons c rest ih =>
      cases right with
      | nil => contradiction
      | cons d others =>
          have shorter : rest.length = others.length := Nat.succ.inj length
          have first := toNat_of_isAsciiDigit (digits d List.mem_cons_self)
          rw [digitsValue_cons ascii, digitsValue_cons digits, ← shorter] at lower
          rw [List.cons_lt_cons_iff]
          rcases Nat.lt_trichotomy c.toNat d.toNat with less | same | more
          · exact .inl less
          · obtain rfl := Char.toNat_inj.mp same
            refine .inr ⟨rfl, ih shorter ?_ ?_ (Nat.lt_of_add_lt_add_left lower)⟩
            · exact (List.forall_mem_cons.mp ascii).2
            · exact (List.forall_mem_cons.mp digits).2
          · refine absurd lower (Nat.not_lt.mpr (Nat.le_of_lt ?_))
            have bound := digitsValue_lt others
            rw [← shorter] at bound
            have step : d.toNat - 48 + 1 ≤ c.toNat - 48 := by omega
            calc Nat.pow 10 rest.length * (d.toNat - 48) + digitsValue others
                < Nat.pow 10 rest.length * (d.toNat - 48 + 1) := by
                  rw [Nat.mul_succ]
                  exact Nat.add_lt_add_left bound _
              _ ≤ Nat.pow 10 rest.length * (c.toNat - 48) := Nat.mul_le_mul_left _ step
              _ ≤ _ := Nat.le_add_right ..

end Text

namespace FrameName

theorem lt_of_number_lt {left right : String} (same : key left = key right)
    (length : left.length = right.length)
    (lower : Text.digitsValue (trailingDigits left) < Text.digitsValue (trailingDigits right)) :
    left < right := by
  have digits : (trailingDigits left).length = (trailingDigits right).length := by
    rw [← String.length_toList, ← String.length_toList, ← toList_key_append left,
      ← toList_key_append right, same] at length
    simpa using length
  have before := Text.lt_of_digitsValue_lt digits isAsciiDigit_of_mem_trailingDigits
    isAsciiDigit_of_mem_trailingDigits lower
  have texts : (key left).toList ++ trailingDigits left <
      (key left).toList ++ trailingDigits right := List.append_left_lt before
  rw [toList_key_append, same, toList_key_append] at texts
  exact texts

end FrameName

namespace Keyed

theorem eq_of_keys {κ α : Type} {left right : List (κ × α)}
    (keys_eq : keys left = keys right)
    (same : ∀ key value other, (key, value) ∈ left → (key, other) ∈ right → value = other) :
    left = right := by
  have length : left.length = right.length := by
    simpa [keys] using congrArg List.length keys_eq
  refine List.ext_getElem length fun index inside within => ?_
  have key : left[index].1 = right[index].1 := by
    have both : (keys left)[index]? = (keys right)[index]? := by rw [keys_eq]
    simpa [keys, inside, within] using both
  refine Prod.ext key (same left[index].1 _ _ (List.getElem_mem inside) ?_)
  rw [key]
  exact List.getElem_mem within

end Keyed

namespace Groups

def ArePadded (frames : List Frame) : Prop :=
  ∀ left ∈ frames, ∀ right ∈ frames, FrameName.endsInDigit left.name →
    FrameName.endsInDigit right.name → FrameName.key left.name = FrameName.key right.name →
      left.name.length = right.name.length

instance (frames : List Frame) : Decidable (ArePadded frames) :=
  inferInstanceAs (Decidable (∀ left ∈ frames, ∀ right ∈ frames, _))

variable {frames : List Frame} {byName byNumber : Groups} {key : String}
  {named numbered : List Placed}

theorem Order.Ranks.asymm {left right : Placed} (ranks : Ranks .byName left right) :
    ¬ Ranks .byName right left := by
  intro back
  cases ranks with
  | name lower =>
      cases back with
      | name higher => exact String.lt_asymm lower higher
      | position same _ => exact String.lt_irrefl _ (same ▸ lower)
  | position same earlier =>
      cases back with
      | name higher => exact String.lt_irrefl _ (same ▸ higher)
      | position _ later => exact Nat.lt_asymm earlier later

theorem Order.Ranks.of_padded {left right : Placed} (ranks : Ranks .byNumber left right)
    (same : FrameName.key left.frame.name = FrameName.key right.frame.name)
    (length : left.frame.name.length = right.frame.name.length) : Ranks .byName left right := by
  cases ranks with
  | number lower => exact .name (FrameName.lt_of_number_lt same length lower)
  | numberName _ lower => exact .name lower
  | position same earlier => exact .position same earlier

theorem members_perm (sorted : Sorted frames .byName byName)
    (counted : Sorted frames .byNumber byNumber) (group : (key, named) ∈ byName)
    (other : (key, numbered) ∈ byNumber) : named.Perm numbered :=
  (sorted.members key named group).1.trans (counted.members key numbered other).1.symm

theorem members_eq (padded : ArePadded frames) (sorted : Sorted frames .byName byName)
    (counted : Sorted frames .byNumber byNumber) (group : (key, named) ∈ byName)
    (other : (key, numbered) ∈ byNumber) : named = numbered := by
  obtain ⟨among, ranked⟩ := counted.members key numbered other
  have own : ∀ placed ∈ numbered, placed.frame ∈ frames ∧
      FrameName.endsInDigit placed.frame.name = true ∧ FrameName.key placed.frame.name = key := by
    intro placed member
    obtain ⟨present, belongs⟩ := List.mem_filter.mp (among.mem_iff.mp member)
    exact ⟨frame_mem_of_mem_placeAll present, isMember_iff.mp belongs⟩
  have named_ranked : numbered.Pairwise Order.byName.Ranks := by
    refine ranked.imp_of_mem fun {left right} first second ranks => ?_
    obtain ⟨present, digit, mine⟩ := own left first
    obtain ⟨present', digit', mine'⟩ := own right second
    have same := mine.trans mine'.symm
    exact ranks.of_padded same (padded _ present _ present' digit digit' same)
  refine List.Perm.eq_of_pairwise ?_ (sorted.members key named group).2 named_ranked
    (members_perm sorted counted group other)
  exact fun left right _ _ forth back => absurd back forth.asymm

theorem exists_ofFrames (short : ∀ frame ∈ frames, ¬ FrameName.IsOverlong frame.name)
    (order : Order) : ∃ groups, ofFrames frames order = .ok groups := by
  rcases ofFrames_cases frames order with ⟨groups, grouped, -⟩ | ⟨frame, member, overlong, -⟩
  · exact ⟨groups, grouped⟩
  · exact absurd overlong (short frame member)

/-- Both orders have the same groups with the same members, and with padded names they are one. -/
theorem ofFrames_ordersAgree (short : ∀ frame ∈ frames, ¬ FrameName.IsOverlong frame.name) :
    ∃ byName byNumber, ofFrames frames .byName = .ok byName ∧
      ofFrames frames .byNumber = .ok byNumber ∧ byName.keys = byNumber.keys ∧
      (∀ key named numbered, (key, named) ∈ byName → (key, numbered) ∈ byNumber →
        named.Perm numbered) ∧
      (ArePadded frames → byName = byNumber) := by
  obtain ⟨byName, grouped⟩ := exists_ofFrames short .byName
  obtain ⟨byNumber, grouped'⟩ := exists_ofFrames short .byNumber
  have sorted := sorted_of_ofFrames grouped
  have counted := sorted_of_ofFrames grouped'
  have keys_eq : byName.keys = byNumber.keys := sorted.keys_eq.trans counted.keys_eq.symm
  refine ⟨byName, byNumber, grouped, grouped', keys_eq, ?_, ?_⟩
  · exact fun _ _ _ => members_perm sorted counted
  · exact fun padded => Keyed.eq_of_keys keys_eq fun _ _ _ => members_eq padded sorted counted

theorem ofFrames_ordersAgree_of_zeros :
    (∀ frame ∈ [({ name := "run10" } : Frame), { name := "jump100" }, { name := "run09" },
      { name := "hero" }, { name := "run10", top := 16 }], ¬ FrameName.IsOverlong frame.name) ∧
    ArePadded [{ name := "run10" }, { name := "jump100" }, { name := "run09" },
      { name := "hero" }, { name := "run10", top := 16 }] ∧
    ∃ groups, ofFrames [{ name := "run10" }, { name := "jump100" }, { name := "run09" },
        { name := "hero" }, { name := "run10", top := 16 }] .byName = .ok groups ∧
      ofFrames [{ name := "run10" }, { name := "jump100" }, { name := "run09" },
        { name := "hero" }, { name := "run10", top := 16 }] .byNumber = .ok groups := by
  have short : ∀ frame ∈ [({ name := "run10" } : Frame), { name := "jump100" },
      { name := "run09" }, { name := "hero" }, { name := "run10", top := 16 }],
      ¬ FrameName.IsOverlong frame.name := by decide
  have padded : ArePadded [{ name := "run10" }, { name := "jump100" }, { name := "run09" },
      { name := "hero" }, { name := "run10", top := 16 }] := by decide
  obtain ⟨byName, byNumber, grouped, grouped', -, -, same⟩ := ofFrames_ordersAgree short
  exact ⟨short, padded, byName, grouped, same padded ▸ grouped'⟩

end Groups

end Flipbook
