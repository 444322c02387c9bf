import DroneTactics.Proofs.Board.MovedTwice
import Mathlib.Data.List.Nodup

/-!
What moving a drone changes on its board. The drone that moves is the first of its id in the order
in which the board lists its lanes. It leaves the lane in which it stands and goes to the end of
another one, or of the same one; nothing else on the board changes, even if other drones have its
id. On a board without a drone of the id nothing changes at all.
-/

namespace DroneTactics

namespace Roster

variable {α : Type} {p q : α → Bool} {name other source : String} {x : α} {r : Roster α}

theorem find?_listed_cons {n : String} {xs : List α} {rest : List (String × List α)} :
    (listed ((n, xs) :: rest)).find? (fun e => p e.2) =
      ((xs.find? p).map (n, ·)).or ((listed rest).find? fun e => p e.2) := by
  rw [listed_cons, List.find?_append, List.find?_map]
  rfl

/-- The element that is picked is the first that satisfies the test. It is taken from one list,
where it is the first to do so, and the other lists stay as they are. -/
theorem first_of_pick? {es es' : List (String × List α)} (nodup : (es.map Prod.fst).Nodup)
    (picked : pick? p es = some (x, es')) :
    ∃ source, (listed es).find? (fun e => p e.2) = some (source, x) ∧
      ∀ name, (es'.lookup name).getD [] =
        if name = source then ((es.lookup name).getD []).eraseP p
        else (es.lookup name).getD [] := by
  induction es generalizing es' with
  | nil => simp [pick?] at picked
  | cons e rest ih =>
      obtain ⟨n, xs⟩ := e
      obtain ⟨fresh, nodup⟩ := List.nodup_cons.1 nodup
      rw [pick?] at picked
      split at picked
      case h_1 y found =>
          obtain ⟨rfl, rfl⟩ := Prod.mk.inj (Option.some.inj picked)
          refine ⟨n, by rw [find?_listed_cons, found]; rfl, ?_⟩
          intro name
          by_cases here : name = n
          · simp [here]
          · simp [List.lookup_cons, beq_eq_false_iff_ne.2 here, here]
      case h_2 absent =>
          obtain ⟨⟨y, es''⟩, later, same⟩ := Option.map_eq_some_iff.1 picked
          obtain ⟨rfl, rfl⟩ := Prod.mk.inj same
          obtain ⟨source, first, left⟩ := ih nodup later
          have elsewhere : n ≠ source := by
            rintro rfl
            obtain ⟨e, mem, inside⟩ := List.mem_flatMap.1 (List.mem_of_find?_eq_some first)
            obtain ⟨z, -, same⟩ := List.mem_map.1 inside
            exact fresh (List.mem_map.2 ⟨e, mem, (Prod.mk.inj same).1⟩)
          refine ⟨source, ?_, ?_⟩
          · rw [find?_listed_cons, absent]
            exact first
          · intro name
            by_cases here : name = n
            · simp [here, elsewhere]
            · simpa [List.lookup_cons, beq_eq_false_iff_ne.2 here] using left name

theorem relocate_of_absent (absent : ∀ e ∈ r.toList, p e.2 = false) :
    r.relocate p name = r := by
  refine relocate_of_none (List.filter_eq_nil_iff.2 fun x mem => ?_)
  obtain ⟨e, listed, rfl⟩ := List.mem_map.1 mem
  simp [absent e listed]

/-- The first element that satisfies the test is taken from its list, and the rest of the roster
gets it back at the end of the named one. -/
theorem relocate_of_first (first : r.toList.find? (fun e => p e.2) = some (source, x))
    (name : String) : ∃ rest : Roster α, rest.names = r.names ∧
      (∀ other, rest.get other =
        if other = source then (r.get other).eraseP p else r.get other) ∧
      r.relocate p name = rest.set name (rest.get name ++ [x]) := by
  unfold relocate
  split
  case h_1 absent =>
      have fails := pick?_eq_none_iff.1 absent _ (List.mem_of_find?_eq_some first)
      have holds := List.find?_some first
      simp [fails] at holds
  case h_2 y es picked =>
      obtain ⟨source', first', left⟩ := first_of_pick? r.nodup picked
      obtain ⟨rfl, rfl⟩ := Prod.mk.inj (Option.some.inj (first'.symm.trans first))
      exact ⟨⟨es, names_of_pick? picked ▸ r.nodup⟩, names_of_pick? picked, left, rfl⟩

theorem get_relocate_of_first (first : r.toList.find? (fun e => p e.2) = some (source, x))
    (name other : String) : (r.relocate p name).get other =
      (if other = source then (r.get other).eraseP p else r.get other) ++
        if other = name then [x] else [] := by
  obtain ⟨rest, -, left, moved⟩ := relocate_of_first first name
  rw [moved, get_set, ← left other]
  split
  case isTrue here => rw [here]
  case isFalse => rw [List.append_nil]

theorem names_relocate_of_first (first : r.toList.find? (fun e => p e.2) = some (source, x))
    (name : String) : (r.relocate p name).names =
      if name ∈ r.names then r.names else r.names ++ [name] := by
  obtain ⟨rest, same, -, moved⟩ := relocate_of_first first name
  rw [moved, names_set, same]

theorem filter_eraseP (apart : ∀ x, p x = true → q x = false) (xs : List α) :
    (xs.eraseP p).filter q = xs.filter q := by
  rcases List.exists_or_eq_self_of_eraseP p xs with same | ⟨a, left, right, -, holds, whole, erased⟩
  · rw [same]
  · rw [erased, whole]
    simp [apart a holds]

/-- What does not satisfy the test stays in its list and in its order. -/
theorem filter_get_relocate (apart : ∀ x, p x = true → q x = false) (name other : String) :
    ((r.relocate p name).get other).filter q = (r.get other).filter q := by
  cases first : r.toList.find? fun e => p e.2 with
  | none =>
      rw [relocate_of_absent (by simpa using List.find?_eq_none.1 first)]
  | some e =>
      have holds := List.find?_some first
      have gone : q e.2 = false := apart e.2 holds
      have added : (if other = name then [e.2] else []).filter q = [] := by
        split <;> simp [gone]
      rw [get_relocate_of_first first, List.filter_append, added, List.append_nil]
      split
      case isTrue => exact filter_eraseP apart _
      case isFalse => rfl

end Roster

/-! ### Boards -/

/-- A board after the first drone of an id has been moved from its lane to the end of another one,
or of the same one. -/
structure Board.Moved (b : Board) (id : String) (goal : LaneId) (after : Board) (source : LaneId)
    (d : Drone) : Prop where
  first : b.drones.toList.find? (fun e => e.2.id = id) = some (source, d)
  lanes : ∀ lane, after.dronesIn lane =
    (if lane = source then (b.dronesIn lane).eraseP fun e => e.id = id else b.dronesIn lane) ++
      if lane = goal then [d] else []
  conserved : (after.drones.toList.map Prod.snd).Perm (b.drones.toList.map Prod.snd)
  names : after.drones.names =
    if goal ∈ b.drones.names then b.drones.names else b.drones.names ++ [goal]
  others : after = { b with drones := after.drones }

namespace Board

variable {b : Board} {id : String} {goal lane : LaneId}

theorem moveDrone_of_absent (absent : ∀ lane, ∀ d ∈ b.dronesIn lane, d.id ≠ id) :
    b.moveDrone id goal = b := by
  have fails : ∀ e ∈ b.drones.toList, decide (e.2.id = id) = false := by
    intro e listed
    simpa using absent e.1 e.2 (Roster.mem_get_iff.2 listed)
  rw [moveDrone, Roster.relocate_of_absent fails]

theorem moved_of_first {source : LaneId} {d : Drone}
    (first : b.drones.toList.find? (fun e => e.2.id = id) = some (source, d)) (goal : LaneId) :
    b.Moved id goal (b.moveDrone id goal) source d where
  first := first
  lanes := Roster.get_relocate_of_first first goal
  conserved := Roster.perm_toList_relocate b.drones _ goal
  names := Roster.names_relocate_of_first first goal
  others := rfl

theorem exists_moved (present : ∃ lane, ∃ d ∈ b.dronesIn lane, d.id = id) (goal : LaneId) :
    ∃ source d, b.Moved id goal (b.moveDrone id goal) source d := by
  obtain ⟨lane, d, stands, same⟩ := present
  cases first : b.drones.toList.find? fun e => e.2.id = id with
  | none =>
      have fails := List.find?_eq_none.1 first (lane, d) (Roster.mem_get_iff.1 stands)
      exact absurd same (by simpa using fails)
  | some e => exact ⟨e.1, e.2, moved_of_first first goal⟩

/-- On a board that tells its drones apart, a drone is the first of its id. -/
theorem first_of_nodup {d : Drone} (distinct : (b.drones.toList.map fun e => e.2.id).Nodup)
    (stands : d ∈ b.dronesIn lane) :
    b.drones.toList.find? (fun e => e.2.id = d.id) = some (lane, d) := by
  have listed := Roster.mem_get_iff.1 stands
  cases first : b.drones.toList.find? fun e => e.2.id = d.id with
  | none => simpa using List.find?_eq_none.1 first (lane, d) listed
  | some e =>
      have same : e.2.id = d.id := by simpa using List.find?_some first
      have one : e = (lane, d) := List.inj_on_of_nodup_map distinct
        (List.mem_of_find?_eq_some first) listed same
      rw [one]

/-- Drones of other ids stay in their lanes and in their order. -/
theorem filter_dronesIn_moveDrone {other : String} (apart : other ≠ id) (lane : LaneId) :
    ((b.moveDrone id goal).dronesIn lane).filter (fun d => d.id = other) =
      (b.dronesIn lane).filter fun d => d.id = other := by
  refine Roster.filter_get_relocate (fun d moves => ?_) goal lane
  have moves : d.id = id := by simpa using moves
  simpa [moves] using apart.symm

end Board

end DroneTactics
