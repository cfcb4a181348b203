import Flipbook.Page.Definitions
import Flipbook.Proofs.Frame.Groups
import Mathlib.Data.List.Basic

/-!
Indices looked up in a list of members or frames. Those within the list give what stands there, in
their order and as often as they occur, and the others are left out.
-/

namespace Flipbook

namespace Definition

variable {count : Nat} {index : Int}

theorem isOutside_eq_false_iff {count index : Int} :
    isOutside count index = false ↔ 0 ≤ index ∧ index < count := by
  simp only [isOutside, Bool.or_eq_false_iff, decide_eq_false_iff_not]
  omega

def within (count : Nat) (indices : List Int) : List Nat :=
  (indices.filter fun index => !isOutside count index).map Int.toNat

theorem within_cons_of_inside (inside : isOutside count index = false) (rest : List Int) :
    within count (index :: rest) = index.toNat :: within count rest := by
  simp [within, inside]

theorem within_cons_of_outside (outside : isOutside count index = true) (rest : List Int) :
    within count (index :: rest) = within count rest := by
  simp [within, outside]

theorem mem_within_iff {place : Nat} {indices : List Int} :
    place ∈ within count indices ↔ place < count ∧ (place : Int) ∈ indices := by
  simp only [within, List.mem_map, List.mem_filter, Bool.not_eq_true', isOutside_eq_false_iff]
  constructor
  · rintro ⟨index, ⟨member, least, less⟩, rfl⟩
    rw [Int.toNat_of_nonneg least]
    exact ⟨by omega, member⟩
  · rintro ⟨less, member⟩
    exact ⟨place, ⟨member, by omega, by omega⟩, Int.toNat_natCast place⟩

theorem length_within_add (count : Nat) (indices : List Int) :
    (within count indices).length + (indices.filter (isOutside count)).length =
      indices.length := by
  rw [within, List.length_map, ← List.countP_eq_length_filter, ← List.countP_eq_length_filter]
  have both := List.length_eq_countP_add_countP (isOutside count) (l := indices)
  simp only [decide_not, Bool.decide_eq_true] at both
  omega

end Definition

theorem Groups.getElem?_placeAll (frames : List Frame) (place : Nat) :
    (placeAll frames)[place]? =
      frames[place]?.map fun frame => ({ position := place, frame } : Placed) := by
  rw [placeAll, List.getElem?_map, List.getElem?_zipIdx, Nat.zero_add, Option.map_map]
  rfl

namespace Page

open Definition (isOutside within)

variable {members : List Placed} {index : Int}

theorem play_cons_of_outside (outside : isOutside members.length index = true)
    (rest : List Int) : play members (index :: rest) = play members rest := by
  simp only [isOutside, Bool.or_eq_true, decide_eq_true_eq] at outside
  rw [play, List.filterMap_cons_none, play]
  split
  next => rfl
  next => rw [List.getElem?_toArray, List.getElem?_eq_none (by omega)]

theorem play_cons_of_inside (inside : isOutside members.length index = false)
    (rest : List Int) : ∃ placed, members[index.toNat]? = some placed ∧
      play members (index :: rest) = placed :: play members rest := by
  rw [Definition.isOutside_eq_false_iff] at inside
  have less : index.toNat < members.length := by omega
  refine ⟨members[index.toNat], List.getElem?_eq_getElem less, ?_⟩
  rw [play, List.filterMap_cons_some, play]
  rw [if_neg (by omega), List.getElem?_toArray, List.getElem?_eq_getElem less]

theorem map_some_play (members : List Placed) (indices : List Int) :
    (play members indices).map some =
      (within members.length indices).map fun place => members[place]? := by
  induction indices with
  | nil => rfl
  | cons index rest ih =>
      cases outside : isOutside members.length index with
      | true => rw [play_cons_of_outside outside, Definition.within_cons_of_outside outside, ih]
      | false =>
          obtain ⟨placed, found, played⟩ := play_cons_of_inside outside rest
          rw [played, Definition.within_cons_of_inside outside, List.map_cons, List.map_cons, ih,
            found]

theorem length_play (members : List Placed) (indices : List Int) :
    (play members indices).length = (within members.length indices).length := by
  simpa using congrArg List.length (map_some_play members indices)

theorem getElem?_play (members : List Placed) (indices : List Int) (place : Nat) :
    (play members indices)[place]? =
      (within members.length indices)[place]?.bind fun index => members[index]? := by
  have same := congrArg (·[place]?) (map_some_play members indices)
  simp only [List.getElem?_map] at same
  cases index : (within members.length indices)[place]? with
  | none =>
      rw [index] at same
      exact Option.map_eq_none_iff.mp same
  | some index =>
      rw [index] at same
      obtain ⟨placed, played, found⟩ := Option.map_eq_some_iff.mp same
      rw [played, Option.bind_some, found]

/-- Frames of a page are looked up as if they were the members of one group. -/
theorem framesAt_eq_play (page : Page) (indices : List Int) :
    page.framesAt indices = play (Groups.placeAll page.frames) indices := by
  have found : page.frameAt? = fun index =>
      if index < 0 then none else (Groups.placeAll page.frames).toArray[index.toNat]? := by
    funext index
    rw [List.getElem?_toArray, Groups.getElem?_placeAll]
    rfl
  rw [framesAt, found, play]

theorem positions_framesAt (page : Page) (indices : List Int) :
    (page.framesAt indices).map (·.position) = within page.count indices := by
  have length : (Groups.placeAll page.frames).length = page.count := by
    simp [Groups.placeAll, count]
  have same := congrArg (List.map (Option.map (·.position)))
    (map_some_play (Groups.placeAll page.frames) indices)
  rw [← framesAt_eq_play, length, List.map_map, List.map_map] at same
  refine List.map_injective_iff.mpr (fun _ _ => Option.some.inj) ?_
  rw [List.map_map]
  refine same.trans (List.map_congr_left fun place member => ?_)
  have less : place < page.frames.length := (Definition.mem_within_iff.mp member).1
  rw [Function.comp, Groups.getElem?_placeAll, List.getElem?_eq_getElem less]
  rfl

theorem frame_of_mem_framesAt {page : Page} {indices : List Int} {placed : Placed}
    (member : placed ∈ page.framesAt indices) :
    page.frames[placed.position]? = some placed.frame := by
  obtain ⟨index, -, found⟩ := List.mem_filterMap.mp member
  unfold frameAt? at found
  split at found
  next => contradiction
  next =>
      obtain ⟨frame, present, rfl⟩ := Option.map_eq_some_iff.mp found
      exact present

end Page

end Flipbook
