import Flipbook.Proofs.Frame.Sorting

/-!
Entries made of pairs one after the other.
-/

namespace Flipbook.Keyed

variable {α : Type} {entries pairs : List (String × α)}

theorem keys_foldl_set (nodup : (keys entries).Nodup) (pairs : List (String × α)) :
    keys (pairs.foldl (fun entries pair => set entries pair.1 pair.2) entries) =
      (keys entries ++ keys pairs).eraseDups := by
  induction pairs generalizing entries with
  | nil =>
      simp only [keys, List.map_nil, List.append_nil, List.foldl_nil]
      exact (Groups.eraseDups_of_nodup nodup).symm
  | cons pair rest ih =>
      obtain ⟨key, value⟩ := pair
      rw [List.foldl_cons]
      cases known : lookup? key entries with
      | some old =>
          have member : key ∈ keys entries := by
            by_contra missing
            rw [lookup?_eq_none_iff.mpr missing] at known
            contradiction
          have same := keys_set known value
          rw [ih (same ▸ nodup), same]
          exact (Groups.eraseDups_append_of_mem member (keys rest)).symm
      | none =>
          have longer := keys_set_of_missing known value
          rw [ih (nodup_keys_set_of_missing nodup known value), longer, List.append_assoc]
          rfl

theorem keys_ofPairs (pairs : List (String × α)) :
    keys (ofPairs pairs) = (keys pairs).eraseDups := by
  have fresh : (keys ([] : List (String × α))).Nodup := List.nodup_nil
  exact keys_foldl_set fresh pairs

theorem lookup?_foldl_set_of_not_mem {key : String} (absent : key ∉ keys pairs)
    (entries : List (String × α)) :
    lookup? key (pairs.foldl (fun entries pair => set entries pair.1 pair.2) entries) =
      lookup? key entries := by
  induction pairs generalizing entries with
  | nil => rfl
  | cons pair rest ih =>
      obtain ⟨different, others⟩ := not_or.mp fun member => absent (List.mem_cons.mpr member)
      rw [List.foldl_cons, ih others, lookup?_set_of_ne (Ne.symm different)]

theorem lookup?_ofPairs {before after : List (String × α)} {key : String}
    (last : key ∉ keys after) (value : α) :
    lookup? key (ofPairs (before ++ (key, value) :: after)) = some value := by
  rw [ofPairs, List.foldl_append, List.foldl_cons, lookup?_foldl_set_of_not_mem last]
  exact lookup?_set_self ..

end Flipbook.Keyed
