import DroneTactics.Proofs.Board.Lane
import Mathlib.Combinatorics.SimpleGraph.Metric

/-!
The lanes of a game as a graph. Distinct lanes are joined when one is a neighbour of the other,
which is when their positions differ by one. A step from lane to lane therefore changes the
position by one, and the way from a lane to another one is as long as their positions are apart.
-/

namespace DroneTactics

variable {lanes : List LaneId} {lane other : LaneId} {i j : Nat}

/-- Among distinct lanes two are neighbours when their positions are next to each other. -/
theorem mem_neighbours_iff_positions (distinct : lanes.Nodup) :
    other ∈ neighbours lanes (some lane) ↔ ∃ i j, lanes[i]? = some lane ∧
      lanes[j]? = some other ∧ (j + 1 = i ∨ i + 1 = j) := by
  constructor
  · intro beside
    obtain ⟨j, there⟩ := List.mem_iff_getElem?.1 ((neighbours_sublist _ _).subset beside)
    obtain ⟨i, here, next⟩ := (mem_neighbours_iff distinct there).1 beside
    exact ⟨i, j, here, there, next⟩
  · rintro ⟨i, j, here, there, next⟩
    exact (mem_neighbours_iff distinct there).2 ⟨i, here, next⟩

theorem neighbours_symm (distinct : lanes.Nodup) (beside : other ∈ neighbours lanes (some lane)) :
    lane ∈ neighbours lanes (some other) := by
  obtain ⟨i, j, here, there, next⟩ := (mem_neighbours_iff_positions distinct).1 beside
  exact (mem_neighbours_iff_positions distinct).2 ⟨j, i, there, here, next.symm⟩

theorem length_neighbours_le (lanes : List LaneId) (lane : Option LaneId) :
    (neighbours lanes lane).length ≤ 2 := by
  have one : ∀ o : Option LaneId, o.toList.length ≤ 1 := fun o => by cases o <;> simp
  unfold neighbours
  split
  case h_1 i _ =>
      rw [lanesBeside, List.length_append]
      exact Nat.add_le_add (one _) (one _)
  case h_2 => exact Nat.zero_le 2

/-- A lane without neighbours is unknown, or none at all, or the only lane. -/
theorem neighbours_eq_nil_iff_of_option (lane : Option LaneId) :
    neighbours lanes lane = [] ↔
      (∀ l ∈ lanes, lane ≠ some l) ∨ ∃ l, lane = some l ∧ lanes = [l] := by
  by_cases known : ∃ l ∈ lanes, lane = some l
  · obtain ⟨l, mem, rfl⟩ := known
    rw [neighbours_eq_nil_iff mem, List.length_eq_one_iff]
    constructor
    · rintro ⟨only, rfl⟩
      exact .inr ⟨only, congrArg some (List.mem_singleton.1 mem), rfl⟩
    · rintro (unknown | ⟨only, -, single⟩)
      · exact absurd rfl (unknown l mem)
      · exact ⟨only, single⟩
  · simp only [not_exists, not_and] at known
    refine iff_of_true ?_ (.inl known)
    have nowhere : laneIndex? lanes lane = none := by
      refine Option.bind_eq_none_iff.2 fun l here => ?_
      exact List.idxOf?_eq_none_iff.2 fun mem => known l mem here
    rw [neighbours, nowhere]

def laneGraph (lanes : List LaneId) (distinct : lanes.Nodup) : SimpleGraph LaneId where
  Adj lane other := other ∈ neighbours lanes (some lane)
  symm := ⟨fun _ _ beside => neighbours_symm distinct beside⟩
  loopless := ⟨fun _ => not_mem_neighbours_self distinct⟩

namespace laneGraph

variable {distinct : lanes.Nodup}

/-- Lanes at positions next to each other are joined. -/
theorem adj_of_succ (here : lanes[i]? = some lane) (there : lanes[i + 1]? = some other) :
    (laneGraph lanes distinct).Adj lane other :=
  (mem_neighbours_iff_positions distinct).2 ⟨i, i + 1, here, there, .inr rfl⟩

/-- Lane after lane, a way leads to every later position. -/
theorem exists_walk_forward {n : Nat} (here : lanes[i]? = some lane)
    (there : lanes[i + n]? = some other) :
    ∃ way : (laneGraph lanes distinct).Walk lane other, way.length = n := by
  induction n generalizing other with
  | zero =>
      obtain rfl : lane = other := Option.some.inj (here.symm.trans there)
      exact ⟨.nil, rfl⟩
  | succ n ih =>
      obtain ⟨bound, -⟩ := List.getElem?_eq_some_iff.1 there
      have between : lanes[i + n]? = some lanes[i + n] := List.getElem?_eq_getElem (by omega)
      obtain ⟨way, length⟩ := ih between
      exact ⟨way.concat (adj_of_succ between there), by rw [SimpleGraph.Walk.length_concat, length]⟩

theorem exists_walk (here : lanes[i]? = some lane) (there : lanes[j]? = some other) :
    ∃ way : (laneGraph lanes distinct).Walk lane other, way.length = i - j + (j - i) := by
  rcases Nat.le_total i j with before | after
  · obtain ⟨n, rfl⟩ := Nat.exists_eq_add_of_le before
    obtain ⟨way, length⟩ := exists_walk_forward here there
    exact ⟨way, by omega⟩
  · obtain ⟨n, rfl⟩ := Nat.exists_eq_add_of_le after
    obtain ⟨way, length⟩ := exists_walk_forward there here
    exact ⟨way.reverse, by rw [SimpleGraph.Walk.length_reverse]; omega⟩

/-- A step changes the position by one, so a way is no shorter than its ends are apart. -/
theorem apart_le_length (way : (laneGraph lanes distinct).Walk lane other)
    (here : lanes[i]? = some lane) (there : lanes[j]? = some other) :
    i - j + (j - i) ≤ way.length := by
  induction way generalizing i with
  | nil =>
      obtain rfl := position_unique distinct here there
      omega
  | cons step way ih =>
      obtain ⟨i', k, here', next, apart⟩ := (mem_neighbours_iff_positions distinct).1 step
      obtain rfl := position_unique distinct here here'
      have rest := ih next there
      rw [SimpleGraph.Walk.length_cons]
      omega

theorem dist_eq (here : lanes[i]? = some lane) (there : lanes[j]? = some other) :
    (laneGraph lanes distinct).Reachable lane other ∧
      (laneGraph lanes distinct).dist lane other = i - j + (j - i) := by
  obtain ⟨way, length⟩ : ∃ way : (laneGraph lanes distinct).Walk lane other,
      way.length = i - j + (j - i) := exists_walk here there
  obtain ⟨shortest, least⟩ := way.reachable.exists_walk_length_eq_dist
  refine ⟨way.reachable, Nat.le_antisymm ?_ ?_⟩
  · exact length ▸ SimpleGraph.dist_le way
  · exact least ▸ apart_le_length shortest here there

end laneGraph

/-- Lanes are neighbours if and only if they stand side by side. Among distinct lanes a lane is a
neighbour of another one exactly when both are known and their positions differ by one, so no
lane is its own neighbour, and two are neighbours of each other or not at all. The neighbours of
a lane are at most two different ones in lane order, and there are none exactly when the lane is
unknown or the only one. Any two known lanes are joined by a way from neighbour to neighbour, the
shortest of which has as many steps as their positions are apart. -/
theorem neighbours_stand_side_by_side (distinct : lanes.Nodup) :
    (∀ lane other, other ∈ neighbours lanes (some lane) ↔ ∃ i j, lanes[i]? = some lane ∧
      lanes[j]? = some other ∧ (j + 1 = i ∨ i + 1 = j)) ∧
    (∀ lane other, other ∈ neighbours lanes (some lane) ↔ lane ∈ neighbours lanes (some other)) ∧
    (∀ lane, lane ∉ neighbours lanes (some lane)) ∧
    (∀ lane : Option LaneId, (neighbours lanes lane).length ≤ 2 ∧ (neighbours lanes lane).Nodup ∧
      (neighbours lanes lane).Sublist lanes ∧
      (neighbours lanes lane = [] ↔
        (∀ l ∈ lanes, lane ≠ some l) ∨ ∃ l, lane = some l ∧ lanes = [l])) ∧
    ∀ i j lane other, lanes[i]? = some lane → lanes[j]? = some other →
      (laneGraph lanes distinct).Reachable lane other ∧
        (laneGraph lanes distinct).dist lane other = i - j + (j - i) := by
  refine ⟨?_, ?_, ?_, ?_, ?_⟩
  · exact fun lane other => mem_neighbours_iff_positions distinct
  · exact fun lane other => ⟨neighbours_symm distinct, neighbours_symm distinct⟩
  · exact fun lane => not_mem_neighbours_self distinct
  · exact fun lane => ⟨length_neighbours_le lanes lane, nodup_neighbours distinct lane,
      neighbours_sublist lanes lane, neighbours_eq_nil_iff_of_option lane⟩
  · exact fun i j lane other here there => laneGraph.dist_eq here there

/-- Of the usual lanes the first and the last are two steps apart. -/
theorem standardLanes_side_by_side : standardLanes.Nodup ∧
    "lane1" ∉ neighbours standardLanes (some "lane3") ∧
    ∃ distinct, (laneGraph standardLanes distinct).dist "lane1" "lane3" = 2 := by
  have distinct : standardLanes.Nodup := by decide
  obtain ⟨-, symmetric, -, -, ways⟩ := neighbours_stand_side_by_side distinct
  have apart : "lane3" ∉ neighbours standardLanes (some "lane1") := by decide
  exact ⟨distinct, fun beside => apart ((symmetric _ _).2 beside), distinct,
    (ways 0 2 "lane1" "lane3" rfl rfl).2⟩

end DroneTactics
