import Flipbook.Frame.Groups
import Flipbook.Proofs.Frame.Name

/-!
Grouping of frames by the keys of their names. It fails for one reason only, which is a name that
ends in more digits than a numeral may have.
-/

namespace Flipbook

namespace Groups

theorem gather_cases (groups : Groups) (placed : List Placed) :
    (∃ result, gather groups placed = .ok result ∧
        ∀ member ∈ placed, ¬ FrameName.IsOverlong member.frame.name) ∨
      ∃ member ∈ placed, FrameName.IsOverlong member.frame.name ∧
        gather groups placed =
          .error (.digitLimit (FrameName.trailingDigits member.frame.name).length) := by
  induction placed generalizing groups with
  | nil => exact .inl ⟨groups, rfl, by simp⟩
  | cons first rest ih =>
      by_cases overlong : FrameName.IsOverlong first.frame.name
      · refine .inr ⟨first, List.mem_cons_self, overlong, ?_⟩
        simp [gather, FrameName.number?_of_overlong overlong, bind, Except.bind]
      · obtain ⟨number, read⟩ := FrameName.number?_of_not_overlong overlong
        have following : ∃ next, gather groups (first :: rest) = gather next rest := by
          cases number with
          | none => exact ⟨groups, by simp [gather, read, bind, Except.bind]⟩
          | some _ => exact ⟨_, by simp [gather, read, bind, Except.bind]; rfl⟩
        obtain ⟨next, same⟩ := following
        rw [same]
        rcases ih next with ⟨result, gathered, fit⟩ | ⟨member, among, failed⟩
        · exact .inl ⟨result, gathered, List.forall_mem_cons.mpr ⟨overlong, fit⟩⟩
        · exact .inr ⟨member, List.mem_cons_of_mem _ among, failed⟩

theorem mem_placeAll_iff {frames : List Frame} {placed : Placed} :
    placed ∈ placeAll frames ↔ frames[placed.position]? = some placed.frame := by
  rw [placeAll, List.mem_map]
  constructor
  · rintro ⟨⟨frame, position⟩, indexed, rfl⟩
    exact List.mem_zipIdx_iff_getElem?.mp indexed
  · intro present
    exact ⟨(placed.frame, placed.position), List.mem_zipIdx_iff_getElem?.mpr present, rfl⟩

theorem frame_mem_of_mem_placeAll {frames : List Frame} {member : Placed}
    (among : member ∈ placeAll frames) : member.frame ∈ frames :=
  List.mem_of_getElem? (mem_placeAll_iff.mp among)

theorem exists_mem_placeAll {frames : List Frame} {frame : Frame} (member : frame ∈ frames) :
    ∃ placed ∈ placeAll frames, placed.frame = frame := by
  obtain ⟨position, present⟩ := List.getElem?_of_mem member
  exact ⟨{ position, frame }, mem_placeAll_iff.mpr present, rfl⟩

def isMember (key : String) (placed : Placed) : Bool :=
  !(FrameName.trailingDigits placed.frame.name).isEmpty && FrameName.key placed.frame.name = key

theorem find?_insert (groups : Groups) (own key : String) (placed : Placed) :
    ((groups.insert own placed).find? key).getD [] =
      (groups.find? key).getD [] ++ if own = key then [placed] else [] := by
  induction groups with
  | nil => by_cases same : own = key <;> simp [insert, find?, Keyed.lookup?, same]
  | cons group rest ih =>
      obtain ⟨other, members⟩ := group
      by_cases here : other = own
      · subst other
        by_cases same : own = key <;> simp [insert, find?, Keyed.lookup?, same]
      · by_cases same : other = key
        · subst key
          simp [insert, find?, Keyed.lookup?, here, Ne.symm here]
        · simpa [insert, find?, Keyed.lookup?, here, same] using ih

theorem gather_cons_cases {groups result : Groups} {first : Placed} {rest : List Placed}
    (gathered : gather groups (first :: rest) = .ok result) :
    ((FrameName.trailingDigits first.frame.name).isEmpty = true ∧
        gather groups rest = .ok result) ∨
      ((FrameName.trailingDigits first.frame.name).isEmpty = false ∧
        gather (groups.insert (FrameName.key first.frame.name) first) rest = .ok result) := by
  cases empty : (FrameName.trailingDigits first.frame.name).isEmpty with
  | true =>
      refine .inl ⟨rfl, ?_⟩
      rw [← gathered]
      simp [gather, FrameName.number?, empty, bind, Except.bind]
  | false =>
      by_cases overlong : FrameName.IsOverlong first.frame.name
      · simp [gather, FrameName.number?_of_overlong overlong, bind, Except.bind] at gathered
      · rw [FrameName.IsOverlong] at overlong
        refine .inr ⟨rfl, ?_⟩
        rw [← gathered]
        simp [gather, FrameName.number?, empty, overlong, bind, Except.bind]

theorem find?_gather {groups result : Groups} {placed : List Placed}
    (gathered : gather groups placed = .ok result) (key : String) :
    (result.find? key).getD [] = (groups.find? key).getD [] ++ placed.filter (isMember key) := by
  induction placed generalizing groups with
  | nil => simp [← Except.ok.inj gathered]
  | cons first rest ih =>
      rcases gather_cons_cases gathered with ⟨empty, skipped⟩ | ⟨filled, inserted⟩
      · rw [ih skipped, List.filter_cons_of_neg (by simp [isMember, empty])]
      · rw [ih inserted, find?_insert]
        by_cases same : FrameName.key first.frame.name = key
        · rw [List.filter_cons_of_pos (by simp [isMember, filled, same])]
          simp [same]
        · rw [List.filter_cons_of_neg (by simp [isMember, same])]
          simp [same]

theorem find?_map (groups : Groups) (change : List Placed → List Placed) (key : String) :
    find? (groups.map fun (key, members) => (key, change members)) key =
      (groups.find? key).map change := by
  induction groups with
  | nil => rfl
  | cons group rest ih =>
      by_cases same : group.1 = key
      · simp [find?, Keyed.lookup?, same]
      · simpa [find?, Keyed.lookup?, same] using ih

/-- The members of a group are the frames with its key, sorted. -/
theorem find?_ofFrames {frames : List Frame} {order : Order} {groups : Groups}
    (grouped : ofFrames frames order = .ok groups) {key : String} {members : List Placed}
    (found : groups.find? key = some members) :
    members = ((placeAll frames).filter (isMember key)).mergeSort order.precedes := by
  cases gathered : gather [] (placeAll frames) with
  | error fault => simp [ofFrames, gathered, bind, Except.bind] at grouped
  | ok unsorted =>
      simp only [ofFrames, gathered, bind, Except.bind, pure, Except.pure,
        Except.ok.injEq] at grouped
      rw [← grouped, find?_map unsorted (·.mergeSort order.precedes)] at found
      obtain ⟨first, before, rfl⟩ := Option.map_eq_some_iff.mp found
      have all := find?_gather gathered key
      rw [before] at all
      rw [← show first = (placeAll frames).filter (isMember key) from all]

theorem ofFrames_cases (frames : List Frame) (order : Order) :
    (∃ groups, ofFrames frames order = .ok groups ∧
        ∀ frame ∈ frames, ¬ FrameName.IsOverlong frame.name) ∨
      ∃ frame ∈ frames, FrameName.IsOverlong frame.name ∧
        ofFrames frames order =
          .error (.digitLimit (FrameName.trailingDigits frame.name).length) := by
  rcases gather_cases [] (placeAll frames) with ⟨result, gathered, fit⟩ | ⟨member, among, failed⟩
  · refine .inl ⟨_, by simp [ofFrames, gathered, bind, Except.bind, pure, Except.pure]; rfl, ?_⟩
    intro frame inside
    obtain ⟨placed, among, rfl⟩ := exists_mem_placeAll inside
    exact fit placed among
  · refine .inr ⟨member.frame, frame_mem_of_mem_placeAll among, failed.1, ?_⟩
    simp [ofFrames, failed.2, bind, Except.bind]

end Groups

end Flipbook
