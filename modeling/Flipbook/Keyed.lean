/-!
Lists of entries with one entry for each key, in the order in which the keys were first set.
-/

namespace Flipbook.Keyed

variable {κ α : Type} [DecidableEq κ]

def keys (entries : List (κ × α)) : List κ := entries.map (·.1)

def lookup? (key : κ) : List (κ × α) → Option α
  | [] => none
  | (other, value) :: rest => if other = key then some value else lookup? key rest

def contains (entries : List (κ × α)) (key : κ) : Bool := (lookup? key entries).isSome

def set (entries : List (κ × α)) (key : κ) (value : α) : List (κ × α) :=
  match entries with
  | [] => [(key, value)]
  | (other, old) :: rest =>
    if other = key then (key, value) :: rest else (other, old) :: set rest key value

def erase (entries : List (κ × α)) (key : κ) : List (κ × α) :=
  entries.filter fun entry => entry.1 ≠ key

@[simp] theorem lookup?_set_self (entries : List (κ × α)) (key : κ) (value : α) :
    lookup? key (set entries key value) = some value := by
  induction entries with
  | nil => simp [set, lookup?]
  | cons entry rest ih =>
      by_cases equal : entry.1 = key
      · simp [set, lookup?, equal]
      · simp [set, lookup?, equal, ih]

theorem lookup?_set_of_ne {key other : κ} (different : other ≠ key)
    (entries : List (κ × α)) (value : α) :
    lookup? key (set entries other value) = lookup? key entries := by
  induction entries with
  | nil => simp [set, lookup?, different]
  | cons entry rest ih =>
      by_cases equal : entry.1 = other
      · simp [set, lookup?, equal, different]
      · simp [set, lookup?, equal, ih]

@[simp] theorem lookup?_erase_self (entries : List (κ × α)) (key : κ) :
    lookup? key (erase entries key) = none := by
  induction entries with
  | nil => rfl
  | cons entry rest ih =>
      by_cases equal : entry.1 = key
      · simpa [erase, equal] using ih
      · simpa [erase, lookup?, equal] using ih

theorem lookup?_erase_of_ne {key other : κ} (different : other ≠ key)
    (entries : List (κ × α)) :
    lookup? key (erase entries other) = lookup? key entries := by
  induction entries with
  | nil => rfl
  | cons entry rest ih =>
      by_cases equal : entry.1 = other
      · simpa [erase, lookup?, equal, different] using ih
      · simp only [erase, ne_eq, decide_not] at ih
        simp [erase, lookup?, equal, ih]

theorem lookup?_of_erase {key other : κ} {value : α} {entries : List (κ × α)}
    (left : lookup? key (erase entries other) = some value) :
    lookup? key entries = some value := by
  by_cases same : other = key
  · rw [same, lookup?_erase_self] at left
    contradiction
  · rwa [lookup?_erase_of_ne same] at left

theorem mem_of_lookup? {key : κ} {value : α} {entries : List (κ × α)}
    (found : lookup? key entries = some value) : (key, value) ∈ entries := by
  induction entries with
  | nil => contradiction
  | cons entry rest ih =>
      by_cases equal : entry.1 = key
      · simp only [lookup?, equal, if_true, Option.some.injEq] at found
        exact List.mem_cons.mpr (.inl (by rw [← equal, ← found]))
      · simp only [lookup?, equal, if_false] at found
        exact List.mem_cons_of_mem _ (ih found)

theorem mem_set {entries : List (κ × α)} {key : κ} {value : α} {entry : κ × α}
    (member : entry ∈ set entries key value) : entry = (key, value) ∨ entry ∈ entries := by
  induction entries with
  | nil => simpa [set] using member
  | cons first rest ih =>
      by_cases equal : first.1 = key
      · simp only [set, equal, if_true, List.mem_cons] at member
        exact member.imp_right (List.mem_cons_of_mem _)
      · simp only [set, equal, if_false, List.mem_cons] at member
        rcases member with here | later
        · exact .inr (List.mem_cons.mpr (.inl here))
        · exact (ih later).imp_right (List.mem_cons_of_mem _)

theorem lookup?_eq_none_iff {key : κ} {entries : List (κ × α)} :
    lookup? key entries = none ↔ key ∉ keys entries := by
  induction entries with
  | nil => simp [lookup?, keys]
  | cons entry rest ih =>
      by_cases equal : entry.1 = key
      · simp [lookup?, keys, equal]
      · rw [lookup?, if_neg equal, ih]
        simp [keys, Ne.symm equal]

theorem keys_set {key : κ} {old : α} {entries : List (κ × α)}
    (found : lookup? key entries = some old) (value : α) :
    keys (set entries key value) = keys entries := by
  induction entries with
  | nil => contradiction
  | cons entry rest ih =>
      by_cases equal : entry.1 = key
      · simp [set, keys, equal]
      · rw [lookup?, if_neg equal] at found
        have following := ih found
        simp only [keys] at following
        simp [set, keys, equal, following]

theorem set_of_missing {key : κ} {entries : List (κ × α)}
    (missing : lookup? key entries = none) (value : α) :
    set entries key value = entries ++ [(key, value)] := by
  induction entries with
  | nil => rfl
  | cons entry rest ih =>
      by_cases equal : entry.1 = key
      · simp [lookup?, equal] at missing
      · rw [lookup?, if_neg equal] at missing
        simp [set, equal, ih missing]

theorem keys_set_of_missing {key : κ} {entries : List (κ × α)}
    (missing : lookup? key entries = none) (value : α) :
    keys (set entries key value) = keys entries ++ [key] := by
  simp [set_of_missing missing, keys]

theorem set_comm {first second : κ} {old : α} {entries : List (κ × α)}
    (found : lookup? first entries = some old) (different : first ≠ second) (left right : α) :
    set (set entries first left) second right = set (set entries second right) first left := by
  induction entries with
  | nil => contradiction
  | cons entry rest ih =>
      by_cases equal : entry.1 = first
      · simp [set, equal, different]
      · rw [lookup?, if_neg equal] at found
        by_cases other : entry.1 = second
        · simp [set, other, Ne.symm different]
        · simp [set, equal, other, ih found]

theorem nodup_keys_set_of_missing {key : κ} {entries : List (κ × α)}
    (nodup : (keys entries).Nodup) (missing : lookup? key entries = none) (value : α) :
    (keys (set entries key value)).Nodup := by
  have fresh := lookup?_eq_none_iff.mp missing
  rw [keys_set_of_missing missing, List.nodup_append]
  refine ⟨nodup, by simp, ?_⟩
  intro other member last single equal
  rw [equal, List.mem_singleton.mp single] at member
  exact fresh member

theorem nodup_keys_erase {entries : List (κ × α)} (nodup : (keys entries).Nodup) (key : κ) :
    (keys (erase entries key)).Nodup :=
  nodup.sublist (List.filter_sublist.map _)

theorem lookup?_of_mem {key : κ} {value : α} {entries : List (κ × α)}
    (nodup : (keys entries).Nodup) (member : (key, value) ∈ entries) :
    lookup? key entries = some value := by
  induction entries with
  | nil => contradiction
  | cons entry rest ih =>
      rw [keys, List.map_cons, List.nodup_cons] at nodup
      rcases List.mem_cons.mp member with here | later
      · simp [lookup?, ← here]
      · have different : entry.1 ≠ key := by
          intro equal
          exact nodup.1 (equal ▸ List.mem_map.mpr ⟨_, later, rfl⟩)
        rw [lookup?, if_neg different]
        exact ih nodup.2 later

theorem erase_of_missing {key : κ} {entries : List (κ × α)}
    (missing : lookup? key entries = none) : erase entries key = entries := by
  refine List.filter_eq_self.mpr fun entry member => ?_
  have different : entry.1 ≠ key := by
    intro equal
    exact lookup?_eq_none_iff.mp missing (equal ▸ List.mem_map_of_mem member)
  simpa using different

theorem perm_erase {entries : List (κ × α)} (nodup : (keys entries).Nodup) (key : κ) :
    ((lookup? key entries).toList ++ (erase entries key).map (·.2)).Perm
      (entries.map (·.2)) := by
  induction entries with
  | nil => exact .nil
  | cons entry rest ih =>
      rw [keys, List.map_cons, List.nodup_cons] at nodup
      by_cases equal : entry.1 = key
      · have missing : lookup? key rest = none := lookup?_eq_none_iff.mpr (equal ▸ nodup.1)
        have erased : erase (entry :: rest) key = rest := by
          simpa [erase, equal] using erase_of_missing missing
        rw [erased, lookup?, if_pos equal]
        exact .refl _
      · have kept : erase (entry :: rest) key = entry :: erase rest key := by
          simp [erase, equal]
        rw [kept, lookup?, if_neg equal]
        exact List.perm_middle.trans ((ih nodup.2).cons entry.2)

/-- Each key at its first place and with its last value. -/
def ofPairs (pairs : List (κ × α)) : List (κ × α) :=
  pairs.foldl (fun entries pair => set entries pair.1 pair.2) []

end Flipbook.Keyed
