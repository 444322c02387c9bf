import DroneTactics.Board.Lane

/-!
Lanes that stand side by side. A known lane is without neighbours only if it is the
only one.
-/

namespace DroneTactics

variable {lanes : List LaneId} {lane : LaneId}

/-- A known lane has a position. -/
theorem exists_laneIndex (mem : lane ∈ lanes) :
    ∃ i, i < lanes.length ∧ laneIndex? lanes (some lane) = some i := by
  obtain ⟨i, found⟩ := Option.isSome_iff_exists.1 (List.isSome_idxOf?.2 mem)
  obtain ⟨bound, -⟩ := List.idxOf?_eq_some_iff.1 found
  exact ⟨i, bound, found⟩

theorem lanesBeside_eq_nil_iff {i : Nat} (bound : i < lanes.length) :
    lanesBeside lanes i = [] ↔ lanes.length = 1 := by
  have before : (if i = 0 then none else lanes[i - 1]?).toList = [] ↔ i = 0 := by
    split
    case isTrue first => simp [first]
    case isFalse later =>
        have inside : i - 1 < lanes.length := by omega
        simp [List.getElem?_eq_getElem inside, later]
  have after : lanes[i + 1]?.toList = [] ↔ lanes.length ≤ i + 1 := by simp
  rw [lanesBeside, List.append_eq_nil_iff, before, after]
  omega

/-- A known lane has no neighbours exactly when it is the only one. -/
theorem neighbours_eq_nil_iff (mem : lane ∈ lanes) :
    neighbours lanes (some lane) = [] ↔ lanes.length = 1 := by
  obtain ⟨i, bound, found⟩ := exists_laneIndex mem
  rw [neighbours, found]
  exact lanesBeside_eq_nil_iff bound

/-- Among fewer than two lanes there are no neighbours, not even of an unknown lane. -/
theorem neighbours_of_length_le_one (few : lanes.length ≤ 1) (lane : Option LaneId) :
    neighbours lanes lane = [] := by
  cases found : laneIndex? lanes lane with
  | none => rw [neighbours, found]
  | some i =>
      obtain ⟨l, rfl, at_i⟩ := Option.bind_eq_some_iff.1 found
      obtain ⟨bound, -⟩ := List.idxOf?_eq_some_iff.1 at_i
      have single : lanes.length = 1 := by omega
      rw [neighbours, found]
      exact (lanesBeside_eq_nil_iff bound).2 single

theorem mem_lanesBeside_iff {i : Nat} : lane ∈ lanesBeside lanes i ↔
    (i ≠ 0 ∧ lanes[i - 1]? = some lane) ∨ lanes[i + 1]? = some lane := by
  rw [lanesBeside, List.mem_append, Option.mem_toList, Option.mem_toList]
  by_cases first : i = 0
  · simp [first]
  · simp [first]

/-- What stands beside a position stands in lane order. -/
theorem lanesBeside_sublist (lanes : List LaneId) (i : Nat) :
    (lanesBeside lanes i).Sublist lanes := by
  have single : ∀ (o : Option LaneId) (ls : List LaneId), (∀ l, o = some l → l ∈ ls) →
      o.toList.Sublist ls := by
    intro o ls within
    cases o with
    | none => exact List.nil_sublist ls
    | some l => exact List.singleton_sublist.2 (within l rfl)
  have parts : (lanesBeside lanes i).Sublist (lanes.take i ++ lanes.drop i) := by
    refine (single _ _ ?_).append (single _ _ ?_)
    · intro l before
      split at before
      case isTrue => cases before
      case isFalse later =>
          refine List.mem_iff_getElem?.2 ⟨i - 1, ?_⟩
          rw [List.getElem?_take_of_lt (by omega), before]
    · intro l after
      refine List.mem_iff_getElem?.2 ⟨1, ?_⟩
      rw [List.getElem?_drop, after]
  rwa [List.take_append_drop] at parts

theorem neighbours_sublist (lanes : List LaneId) (lane : Option LaneId) :
    (neighbours lanes lane).Sublist lanes := by
  unfold neighbours
  split
  · exact lanesBeside_sublist lanes _
  · exact List.nil_sublist lanes

/-- Distinct lanes have distinct neighbours. -/
theorem nodup_neighbours (distinct : lanes.Nodup) (lane : Option LaneId) :
    (neighbours lanes lane).Nodup :=
  (neighbours_sublist lanes lane).nodup distinct

/-- Among distinct things each has one position. -/
theorem position_unique {α : Type} {xs : List α} {x : α} {i j : Nat} (distinct : xs.Nodup)
    (here : xs[i]? = some x) (there : xs[j]? = some x) : i = j := by
  obtain ⟨bound, -⟩ := List.getElem?_eq_some_iff.1 here
  exact (List.getElem?_inj bound distinct).1 (here.trans there.symm)

/-- Among distinct lanes the neighbours of a lane are those at the positions next to its own. -/
theorem mem_neighbours_iff (distinct : lanes.Nodup) {i : Nat} {other : LaneId}
    (there : lanes[i]? = some lane) : lane ∈ neighbours lanes (some other) ↔
      ∃ j, lanes[j]? = some other ∧ (i + 1 = j ∨ j + 1 = i) := by
  have only : ∀ j, lanes[j]? = some lane → j = i := fun j here =>
    position_unique distinct here there
  have beside : ∀ j, lane ∈ lanesBeside lanes j ↔ i + 1 = j ∨ j + 1 = i := by
    intro j
    rw [mem_lanesBeside_iff]
    constructor
    · rintro (⟨later, before⟩ | after)
      · have := only _ before
        omega
      · exact .inr (only _ after)
    · rintro (rfl | rfl)
      · exact .inl ⟨by omega, there⟩
      · exact .inr there
  constructor
  · intro mem
    cases found : laneIndex? lanes (some other) with
    | none =>
        rw [neighbours, found] at mem
        exact absurd mem List.not_mem_nil
    | some j =>
        rw [neighbours, found] at mem
        obtain ⟨bound, here, -⟩ := List.idxOf?_eq_some_iff.1 found
        exact ⟨j, List.getElem?_eq_some_iff.2 ⟨bound, here⟩, (beside j).1 mem⟩
  · rintro ⟨j, here, next⟩
    obtain ⟨k, -, found⟩ := exists_laneIndex (List.mem_of_getElem? here)
    obtain ⟨bound, first, -⟩ := List.idxOf?_eq_some_iff.1 found
    have first : lanes[k]? = some other := List.getElem?_eq_some_iff.2 ⟨bound, first⟩
    obtain rfl := position_unique distinct first here
    rw [neighbours, found]
    exact (beside k).2 next

/-- Among distinct lanes none is beside itself. -/
theorem not_mem_neighbours_self (distinct : lanes.Nodup) :
    lane ∉ neighbours lanes (some lane) := by
  intro beside
  obtain ⟨i, there⟩ := List.mem_iff_getElem?.1 ((neighbours_sublist _ _).subset beside)
  obtain ⟨j, here, next⟩ := (mem_neighbours_iff distinct there).1 beside
  have same : i = j := position_unique distinct there here
  omega

end DroneTactics
