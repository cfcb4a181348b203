import Flipbook.Proofs.Frame.Groups
import Mathlib.Data.List.Nodup
import Mathlib.Logic.ExistsUnique

/-!
The groups of a list of frames. Keys come in the order of their first members, and the members of a
group are those frames with its key, stably sorted.
-/

namespace Flipbook

namespace Groups

theorem isMember_iff {key : String} {placed : Placed} : isMember key placed = true ↔
    FrameName.endsInDigit placed.frame.name = true ∧ FrameName.key placed.frame.name = key := by
  simp [isMember, FrameName.isEmpty_trailingDigits]

theorem keys_insert_of_mem {groups : Groups} {own : String} (known : own ∈ groups.keys)
    (placed : Placed) : (groups.insert own placed).keys = groups.keys := by
  induction groups with
  | nil => contradiction
  | cons group rest ih =>
      by_cases here : group.1 = own
      · simp [insert, keys, Keyed.keys, here]
      · have later : own ∈ keys rest := (List.mem_cons.mp known).resolve_left (Ne.symm here)
        have following := ih later
        simp only [keys, Keyed.keys] at following
        simp [insert, keys, Keyed.keys, here, following]

theorem keys_insert_of_not_mem {groups : Groups} {own : String} (fresh : own ∉ groups.keys)
    (placed : Placed) : (groups.insert own placed).keys = groups.keys ++ [own] := by
  induction groups with
  | nil => rfl
  | cons group rest ih =>
      obtain ⟨different, fresh⟩ := not_or.mp fun known => fresh (List.mem_cons.mpr known)
      have following := ih fresh
      simp only [keys, Keyed.keys] at following
      simp [insert, keys, Keyed.keys, Ne.symm different, following]

theorem nodup_keys_insert {groups : Groups} (nodup : groups.keys.Nodup) (own : String)
    (placed : Placed) : (groups.insert own placed).keys.Nodup := by
  by_cases known : own ∈ groups.keys
  · rwa [keys_insert_of_mem known]
  · rw [keys_insert_of_not_mem known, ← List.concat_eq_append]
    exact nodup.concat known

theorem nodup_keys_gather {groups result : Groups} {placed : List Placed}
    (gathered : gather groups placed = .ok result) (nodup : groups.keys.Nodup) :
    result.keys.Nodup := by
  induction placed generalizing groups with
  | nil => exact Except.ok.inj gathered ▸ nodup
  | cons first rest ih =>
      rcases gather_cons_cases gathered with ⟨-, skipped⟩ | ⟨-, inserted⟩
      · exact ih skipped nodup
      · exact ih inserted (nodup_keys_insert nodup _ _)

theorem eraseDups_append_of_mem {known : List String} {key : String} (member : key ∈ known)
    (rest : List String) : (known ++ key :: rest).eraseDups = (known ++ rest).eraseDups := by
  rw [List.eraseDups_append, List.eraseDups_append]
  simp [List.removeAll, member]

theorem eraseDups_keys_gather {groups result : Groups} {placed : List Placed}
    (gathered : gather groups placed = .ok result) :
    result.keys.eraseDups =
      (groups.keys ++ (placed.filter fun placed => FrameName.endsInDigit placed.frame.name).map
        fun placed => FrameName.key placed.frame.name).eraseDups := by
  induction placed generalizing groups with
  | nil => simp [← Except.ok.inj gathered]
  | cons first rest ih =>
      rcases gather_cons_cases gathered with ⟨empty, skipped⟩ | ⟨filled, inserted⟩
      · rw [FrameName.isEmpty_trailingDigits, Bool.not_eq_true'] at empty
        rw [ih skipped, List.filter_cons_of_neg (by simp [empty])]
      · rw [FrameName.isEmpty_trailingDigits, Bool.not_eq_false'] at filled
        rw [ih inserted, List.filter_cons_of_pos (by simp [filled]), List.map_cons]
        by_cases known : FrameName.key first.frame.name ∈ groups.keys
        · rw [keys_insert_of_mem known, eraseDups_append_of_mem known]
        · rw [keys_insert_of_not_mem known, List.append_assoc, List.singleton_append]

theorem eraseDups_of_nodup {keys : List String} (nodup : keys.Nodup) : keys.eraseDups = keys := by
  induction keys with
  | nil => rfl
  | cons key rest ih =>
      obtain ⟨fresh, nodup⟩ := List.nodup_cons.mp nodup
      have others : rest.filter (fun other => !other == key) = rest := by
        rw [List.filter_eq_self]
        intro other member
        have different : other ≠ key := fun same => fresh (same ▸ member)
        simpa using different
      rw [List.eraseDups_cons, others, ih nodup]

theorem map_frame_placeAll (frames : List Frame) : (placeAll frames).map (·.frame) = frames := by
  simp only [placeAll, List.map_map]
  exact List.zipIdx_map_fst 0 frames

theorem pairwise_placeAll (frames : List Frame) :
    (placeAll frames).Pairwise fun left right => left.position < right.position := by
  have positions : (placeAll frames).map (·.position) = List.range' 0 frames.length := by
    simp only [placeAll, List.map_map]
    exact List.zipIdx_map_snd 0 frames
  have increasing : (List.range' 0 frames.length).Pairwise (· < ·) := List.pairwise_lt_range' ..
  rw [← positions, List.pairwise_map] at increasing
  exact increasing

theorem pairwise_mergeSort_of_ties {α : Type} {le : α → α → Bool} {before : α → α → Prop}
    (trans : ∀ a b c, le a b = true → le b c = true → le a c = true)
    (total : ∀ a b, (le a b || le b a) = true) {list : List α} (ordered : list.Pairwise before) :
    (list.mergeSort le).Pairwise fun a b => le a b = true ∧ (le b a = true → before a b) := by
  -- Sorting the list with its indices says for each tie which of the two indices is lower.
  have sorted := List.pairwise_mergeSort (List.zipIdxLE_trans trans) (List.zipIdxLE_total total)
    list.zipIdx
  have distinct : (list.zipIdx.mergeSort (List.zipIdxLE le)).Pairwise fun a b => a.2 ≠ b.2 := by
    have nodup := (List.mergeSort_perm list.zipIdx (List.zipIdxLE le)).map Prod.snd |>.nodup_iff.mpr
      (List.zipIdx_map_snd 0 list ▸ List.nodup_range')
    exact List.pairwise_map.mp nodup
  rw [← List.mergeSort_zipIdx, List.pairwise_map]
  refine (sorted.and distinct).imp_of_mem ?_
  rintro ⟨a, i⟩ ⟨b, j⟩ first second ⟨least, different⟩
  rw [List.mem_mergeSort, List.mem_zipIdx_iff_getElem?] at first second
  obtain ⟨inside, atFirst⟩ := List.getElem?_eq_some_iff.mp first
  obtain ⟨within, atSecond⟩ := List.getElem?_eq_some_iff.mp second
  simp only [List.zipIdxLE] at least
  split at least
  next forth =>
      refine ⟨forth, fun back => ?_⟩
      rw [if_pos back, decide_eq_true_eq] at least
      have earlier : i < j := Nat.lt_of_le_of_ne least different
      have apart := List.pairwise_iff_getElem.mp ordered i j inside within earlier
      rwa [atFirst, atSecond] at apart
  next => contradiction

/-- The order of the members of a group: by names, or by numbers and then by names. Members of one
name keep the order of the atlas. -/
inductive Order.Ranks : Order → Placed → Placed → Prop
  | name {left right : Placed} (lower : left.frame.name < right.frame.name) :
      Ranks .byName left right
  | number {left right : Placed} (lower : memberNumber left < memberNumber right) :
      Ranks .byNumber left right
  | numberName {left right : Placed} (same : memberNumber left = memberNumber right)
      (lower : left.frame.name < right.frame.name) : Ranks .byNumber left right
  | position {order : Order} {left right : Placed} (same : left.frame.name = right.frame.name)
      (earlier : left.position < right.position) : Ranks order left right

namespace Order

theorem precedes_byNumber_iff {left right : Placed} : precedes .byNumber left right = true ↔
    memberNumber left < memberNumber right ∨
      (memberNumber left = memberNumber right ∧ left.frame.name ≤ right.frame.name) := by
  simp [precedes]

theorem precedes_trans (order : Order) (first second third : Placed)
    (forth : order.precedes first second = true) (further : order.precedes second third = true) :
    order.precedes first third = true := by
  cases order with
  | byName =>
      simp only [precedes, decide_eq_true_eq] at forth further ⊢
      exact String.le_trans forth further
  | byNumber =>
      rw [precedes_byNumber_iff] at forth further ⊢
      rcases forth with lower | ⟨same, before⟩
      · rcases further with higher | ⟨again, -⟩
        · exact .inl (Nat.lt_trans lower higher)
        · exact .inl (again ▸ lower)
      · rcases further with higher | ⟨again, after⟩
        · exact .inl (same ▸ higher)
        · exact .inr ⟨same.trans again, String.le_trans before after⟩

theorem precedes_total (order : Order) (left right : Placed) :
    (order.precedes left right || order.precedes right left) = true := by
  rw [Bool.or_eq_true]
  cases order with
  | byName =>
      simp only [precedes, decide_eq_true_eq]
      exact String.le_total _ _
  | byNumber =>
      rw [precedes_byNumber_iff, precedes_byNumber_iff]
      rcases Nat.lt_trichotomy (memberNumber left) (memberNumber right) with lower | same | higher
      · exact .inl (.inl lower)
      · rcases String.le_total left.frame.name right.frame.name with before | after
        · exact .inl (.inr ⟨same, before⟩)
        · exact .inr (.inr ⟨same.symm, after⟩)
      · exact .inr (.inl higher)

theorem ranks_of_precedes {order : Order} {left right : Placed}
    (forth : order.precedes left right = true)
    (tie : order.precedes right left = true → left.position < right.position) :
    order.Ranks left right := by
  cases order with
  | byName =>
      simp only [precedes, decide_eq_true_eq] at forth tie
      by_cases back : right.frame.name ≤ left.frame.name
      · exact .position (String.le_antisymm forth back) (tie back)
      · exact .name (String.not_le.mp back)
  | byNumber =>
      rw [precedes_byNumber_iff] at forth tie
      rcases forth with lower | ⟨same, before⟩
      · exact .number lower
      · by_cases back : right.frame.name ≤ left.frame.name
        · exact .position (String.le_antisymm before back) (tie (.inr ⟨same.symm, back⟩))
        · exact .numberName same (String.not_le.mp back)

end Order

structure Sorted (frames : List Frame) (order : Order) (groups : Groups) : Prop where
  keys_eq : groups.keys =
    ((frames.filter (FrameName.endsInDigit ·.name)).map (FrameName.key ·.name)).eraseDups
  nodup : groups.keys.Nodup
  members : ∀ key members, (key, members) ∈ groups →
    members.Perm ((placeAll frames).filter (isMember key)) ∧ members.Pairwise order.Ranks
  counted : ∀ frame key members, (key, members) ∈ groups →
    (members.map (·.frame)).count frame =
      if FrameName.endsInDigit frame.name ∧ FrameName.key frame.name = key then frames.count frame
      else 0
  placed_once : ∀ frame ∈ frames, FrameName.endsInDigit frame.name →
    ∃! group, group ∈ groups ∧ frame ∈ group.2.map (·.frame)

theorem keys_ofFrames {frames : List Frame} {order : Order} {groups : Groups}
    (grouped : ofFrames frames order = .ok groups) :
    groups.keys.Nodup ∧ groups.keys =
      ((frames.filter (FrameName.endsInDigit ·.name)).map (FrameName.key ·.name)).eraseDups := by
  cases gathered : gather [] (placeAll frames) with
  | error fault => simp [ofFrames, gathered, bind, Except.bind] at grouped
  | ok unsorted =>
      simp only [ofFrames, gathered, bind, Except.bind, pure, Except.pure,
        Except.ok.injEq] at grouped
      have nodup := nodup_keys_gather gathered List.nodup_nil
      have met := eraseDups_keys_gather gathered
      rw [eraseDups_of_nodup nodup] at met
      have same : groups.keys = unsorted.keys := by
        rw [← grouped]
        simp [keys, Keyed.keys]
      rw [same]
      refine ⟨nodup, met.trans ?_⟩
      conv => rhs; rw [← map_frame_placeAll frames, List.filter_map, List.map_map]
      rfl

theorem members_ofFrames {frames : List Frame} {order : Order} {groups : Groups}
    (grouped : ofFrames frames order = .ok groups) {key : String} {members : List Placed}
    (member : (key, members) ∈ groups) :
    members.Perm ((placeAll frames).filter (isMember key)) ∧ members.Pairwise order.Ranks := by
  rw [find?_ofFrames grouped (Keyed.lookup?_of_mem (keys_ofFrames grouped).1 member)]
  refine ⟨List.mergeSort_perm _ _, ?_⟩
  have sorted := pairwise_mergeSort_of_ties order.precedes_trans order.precedes_total
    ((pairwise_placeAll frames).filter (isMember key))
  exact sorted.imp fun both => Order.ranks_of_precedes both.1 both.2

theorem count_filter_isMember (frames : List Frame) (key : String) (frame : Frame) :
    (((placeAll frames).filter (isMember key)).map (·.frame)).count frame =
      if FrameName.endsInDigit frame.name ∧ FrameName.key frame.name = key then frames.count frame
      else 0 := by
  have filtered : ((placeAll frames).filter (isMember key)).map (·.frame) = frames.filter
      fun frame => FrameName.endsInDigit frame.name ∧ FrameName.key frame.name = key := by
    conv => rhs; rw [← map_frame_placeAll frames, List.filter_map]
    congr 1
    refine List.filter_congr fun placed _ => ?_
    rw [Bool.eq_iff_iff, isMember_iff]
    simp
  rw [filtered]
  split
  next own => exact List.count_filter (by simpa using own)
  next foreign =>
      rw [List.count_eq_zero, List.mem_filter]
      rintro ⟨-, own⟩
      exact foreign (by simpa using own)

theorem sorted_of_ofFrames {frames : List Frame} {order : Order} {groups : Groups}
    (grouped : ofFrames frames order = .ok groups) : Sorted frames order groups := by
  obtain ⟨nodup, keys_eq⟩ := keys_ofFrames grouped
  have counted : ∀ frame key members, (key, members) ∈ groups →
      (members.map (·.frame)).count frame =
        if FrameName.endsInDigit frame.name ∧ FrameName.key frame.name = key then
          frames.count frame
        else 0 := by
    intro frame key members member
    rw [((members_ofFrames grouped member).1.map _).count_eq, count_filter_isMember]
  refine ⟨keys_eq, nodup, fun key members => members_ofFrames grouped, counted, ?_⟩
  intro frame member numbered
  have listed : FrameName.key frame.name ∈ groups.keys := by
    rw [keys_eq, List.mem_eraseDups]
    exact List.mem_map.mpr ⟨frame, List.mem_filter.mpr ⟨member, numbered⟩, rfl⟩
  obtain ⟨⟨key, members⟩, group, own⟩ := List.mem_map.mp listed
  refine ⟨(key, members), ⟨group, ?_⟩, ?_⟩
  · rw [← List.count_pos_iff, counted frame key members group, if_pos ⟨numbered, own.symm⟩]
    exact List.count_pos_iff.mpr member
  · rintro ⟨other, others⟩ ⟨group', among⟩
    rw [← List.count_pos_iff, counted frame other others group'] at among
    split at among
    next same =>
        obtain rfl : other = key := same.2.symm.trans own.symm
        have found := Keyed.lookup?_of_mem nodup group
        rw [Keyed.lookup?_of_mem nodup group', Option.some.injEq] at found
        rw [found]
    next => contradiction

/-- Frames whose names have no more digits than a numeral may have are grouped and sorted. -/
theorem ofFrames_sorted {frames : List Frame}
    (short : ∀ frame ∈ frames, ¬ FrameName.IsOverlong frame.name) (order : Order) :
    ∃ groups, ofFrames frames order = .ok groups ∧ Sorted frames order groups := by
  rcases ofFrames_cases frames order with ⟨groups, grouped, -⟩ | ⟨frame, member, overlong, -⟩
  · exact ⟨groups, grouped, sorted_of_ofFrames grouped⟩
  · exact absurd overlong (short frame member)

theorem ofFrames_sorted_of_repeated_names :
    (∀ frame ∈ [({ name := "run10" } : Frame), { name := "run9" }, { name := "hero" },
      { name := "7" }, { name := "run09" }, { name := "run9", top := 16 }],
      ¬ FrameName.IsOverlong frame.name) ∧
    ∃ groups, ofFrames [{ name := "run10" }, { name := "run9" }, { name := "hero" },
        { name := "7" }, { name := "run09" }, { name := "run9", top := 16 }] .byNumber =
          .ok groups ∧
      groups.keys = ["run", ""] ∧
      Sorted [{ name := "run10" }, { name := "run9" }, { name := "hero" }, { name := "7" },
        { name := "run09" }, { name := "run9", top := 16 }] .byNumber groups := by
  have short : ∀ frame ∈ [({ name := "run10" } : Frame), { name := "run9" }, { name := "hero" },
      { name := "7" }, { name := "run09" }, { name := "run9", top := 16 }],
      ¬ FrameName.IsOverlong frame.name := by decide
  obtain ⟨groups, grouped, sorted⟩ := ofFrames_sorted short .byNumber
  exact ⟨short, groups, grouped, sorted.keys_eq.trans (by decide), sorted⟩

end Groups

end Flipbook
