import Flipbook.Proofs.Frame.Sorting

/-!
Groups that are sorted anew after each frame that they gain. They come out as those that are sorted
once all frames are there, because a stable sort loses nothing by an earlier one.
-/

namespace Flipbook

section Stable

variable {α : Type} {le : α → α → Bool}

theorem filter_mergeSort_of_tied (trans : ∀ a b c, le a b = true → le b c = true → le a c = true)
    (total : ∀ a b, (le a b || le b a) = true) {kept : α → Bool}
    (tied : ∀ a b, kept a = true → kept b = true → le a b = true) (list : List α) :
    (list.mergeSort le).filter kept = list.filter kept := by
  have ordered : (list.filter kept).Pairwise fun a b => le a b = true := by
    refine List.pairwise_of_forall_mem_list fun a first b second => ?_
    exact tied a b (List.mem_filter.mp first).2 (List.mem_filter.mp second).2
  have among := (List.sublist_mergeSort trans total ordered List.filter_sublist).filter kept
  rw [List.filter_filter] at among
  simp only [Bool.and_self] at among
  have length := ((List.mergeSort_perm list le).filter kept).length_eq
  exact (among.eq_of_length length.symm).symm

/-- A sorted list is determined by the order within each class of elements that tie. -/
theorem eq_of_pairwise_of_ties {left right : List α} (refl : ∀ a, le a a = true)
    (sorted : left.Pairwise fun a b => le a b = true)
    (ordered : right.Pairwise fun a b => le a b = true)
    (ties : ∀ a, left.filter (fun b => le a b && le b a) =
      right.filter fun b => le a b && le b a) : left = right := by
  induction left generalizing right with
  | nil =>
      cases right with
      | nil => rfl
      | cons b others => simpa [refl] using ties b
  | cons a rest ih =>
      cases right with
      | nil => simpa [refl] using ties a
      | cons b others =>
          have first : a ∈ b :: others := by
            have member : a ∈ (a :: rest).filter fun c => le a c && le c a := by simp [refl]
            exact (List.mem_filter.mp (ties a ▸ member)).1
          have second : b ∈ a :: rest := by
            have member : b ∈ (b :: others).filter fun c => le b c && le c b := by simp [refl]
            exact (List.mem_filter.mp (ties b ▸ member)).1
          rw [List.pairwise_cons] at sorted ordered
          have forth : le a b = true := by
            rcases List.mem_cons.mp second with same | later
            · exact same ▸ refl a
            · exact sorted.1 b later
          have back : le b a = true := by
            rcases List.mem_cons.mp first with same | later
            · exact same ▸ refl b
            · exact ordered.1 a later
          have heads := ties a
          simp only [List.filter_cons, refl, forth, back, Bool.and_self, if_true] at heads
          obtain rfl : a = b := (List.cons.inj heads).1
          congr 1
          refine ih sorted.2 ordered.2 fun c => ?_
          have both := ties c
          simp only [List.filter_cons] at both
          split at both
          · exact (List.cons.inj both).2
          · exact both

theorem mergeSort_mergeSort_append
    (trans : ∀ a b c, le a b = true → le b c = true → le a c = true)
    (total : ∀ a b, (le a b || le b a) = true) (earlier later : List α) :
    (earlier.mergeSort le ++ later).mergeSort le = (earlier ++ later).mergeSort le := by
  have refl : ∀ a, le a a = true := fun a => by simpa using total a a
  refine eq_of_pairwise_of_ties refl (List.pairwise_mergeSort trans total _)
    (List.pairwise_mergeSort trans total _) fun a => ?_
  have tied : ∀ b c, (le a b && le b a) = true → (le a c && le c a) = true → le b c = true := by
    intro b c left right
    rw [Bool.and_eq_true] at left right
    exact trans b a c left.2 right.1
  simp only [filter_mergeSort_of_tied trans total tied, List.filter_append]

end Stable

namespace Groups

def insertSorted (order : Order) (groups : Groups) (key : String) (placed : Placed) : Groups :=
  groups.replace key (((groups.find? key).getD [] ++ [placed]).mergeSort order.precedes)

def gatherSorted (order : Order) (groups : Groups) : List Placed → Except Fault Groups
  | [] => .ok groups
  | placed :: rest => do
    match ← FrameName.number? placed.frame.name with
    | none => gatherSorted order groups rest
    | some _ =>
      gatherSorted order (groups.insertSorted order (FrameName.key placed.frame.name) placed) rest

def sortAll (order : Order) (groups : Groups) : Groups :=
  groups.map fun (key, members) => (key, members.mergeSort order.precedes)

variable {order : Order}

theorem mergeSort_precedes_append (order : Order) (earlier later : List Placed) :
    (earlier.mergeSort order.precedes ++ later).mergeSort order.precedes =
      (earlier ++ later).mergeSort order.precedes :=
  mergeSort_mergeSort_append order.precedes_trans order.precedes_total earlier later

theorem insertSorted_sortAll (order : Order) (groups : Groups) (key : String) (placed : Placed) :
    (groups.sortAll order).insertSorted order key placed =
      (groups.insert key placed).sortAll order := by
  induction groups with
  | nil => rfl
  | cons group rest ih =>
      obtain ⟨other, members⟩ := group
      by_cases same : other = key
      · have sorted := mergeSort_precedes_append order members [placed]
        simp [insertSorted, sortAll, insert, replace, find?, Keyed.set, Keyed.lookup?, same, sorted]
      · simp only [insertSorted, sortAll, replace, find?] at ih
        simp [insertSorted, sortAll, insert, replace, find?, Keyed.set, Keyed.lookup?, same, ih]

theorem gatherSorted_sortAll (order : Order) (groups : Groups) (placed : List Placed) :
    gatherSorted order (groups.sortAll order) placed =
      (gather groups placed).map (sortAll order) := by
  induction placed generalizing groups with
  | nil => rfl
  | cons first rest ih =>
      simp only [gatherSorted, gather]
      cases FrameName.number? first.frame.name with
      | error fault => rfl
      | ok number =>
          cases number with
          | none => exact ih groups
          | some value =>
              have following := ih (groups.insert (FrameName.key first.frame.name) first)
              rw [← insertSorted_sortAll] at following
              exact following

/-- Groups of frames that are taken one by one. Each one is put at the end of its group, and the
group is sorted before the next frame is read. -/
def ofFramesOneByOne (frames : List Frame) (order : Order) : Except Fault Groups :=
  gatherSorted order [] (placeAll frames)

theorem ofFramesOneByOne_eq (frames : List Frame) (order : Order) :
    ofFramesOneByOne frames order = ofFrames frames order := by
  have kept : gatherSorted order [] (placeAll frames) =
      (gather [] (placeAll frames)).map (sortAll order) :=
    gatherSorted_sortAll order [] (placeAll frames)
  rw [ofFramesOneByOne, kept, ofFrames]
  cases gather [] (placeAll frames) <;> rfl

theorem ofFrames_sortsOnce {frames : List Frame}
    (short : ∀ frame ∈ frames, ¬ FrameName.IsOverlong frame.name) (order : Order) :
    ∃ groups, ofFrames frames order = .ok groups ∧ ofFramesOneByOne frames order = .ok groups := by
  rcases ofFrames_cases frames order with ⟨groups, grouped, -⟩ | ⟨frame, member, overlong, -⟩
  · exact ⟨groups, grouped, (ofFramesOneByOne_eq frames order).trans grouped⟩
  · exact absurd overlong (short frame member)

theorem ofFrames_sortsOnce_of_repeated_names :
    (∀ frame ∈ [({ name := "run9" } : Frame), { name := "run10" }, { name := "jump0" },
      { name := "run09" }, { name := "run9", top := 16 }], ¬ FrameName.IsOverlong frame.name) ∧
    ∃ groups, ofFrames [{ name := "run9" }, { name := "run10" }, { name := "jump0" },
        { name := "run09" }, { name := "run9", top := 16 }] .byNumber = .ok groups ∧
      ofFramesOneByOne [{ name := "run9" }, { name := "run10" }, { name := "jump0" },
        { name := "run09" }, { name := "run9", top := 16 }] .byNumber = .ok groups := by
  have short : ∀ frame ∈ [({ name := "run9" } : Frame), { name := "run10" }, { name := "jump0" },
      { name := "run09" }, { name := "run9", top := 16 }],
      ¬ FrameName.IsOverlong frame.name := by decide
  exact ⟨short, ofFrames_sortsOnce short .byNumber⟩

end Groups

end Flipbook
