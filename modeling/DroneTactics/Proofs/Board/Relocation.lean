import DroneTactics.Proofs.Board.Station

/-!
What moving one element of a roster does. The first element that satisfies the test leaves
its list and goes to the end of another one; all others stay where they are. On a board, a
drone whose id occurs once is then in its new lane and in no other.
-/

namespace DroneTactics

namespace Roster

variable {α : Type} {p : α → Bool} {name other : String} {x : α}

/-! ### Elements by name -/

theorem mem_toList_iff {r : Roster α} :
    (name, x) ∈ r.toList ↔ ∃ xs, (name, xs) ∈ r.entries ∧ x ∈ xs := by
  rw [toList, List.mem_flatMap]
  constructor
  · rintro ⟨⟨n, xs⟩, mem, inside⟩
    obtain ⟨y, stands, same⟩ := List.mem_map.1 inside
    obtain ⟨rfl, rfl⟩ := Prod.mk.inj same
    exact ⟨xs, mem, stands⟩
  · rintro ⟨xs, mem, stands⟩
    exact ⟨(name, xs), mem, List.mem_map.2 ⟨x, stands, rfl⟩⟩

/-- Since no name occurs twice, what is found under a name is what is listed with it. -/
theorem lookup_eq_some_iff {es : List (String × List α)} (nodup : (es.map Prod.fst).Nodup)
    {xs : List α} : es.lookup name = some xs ↔ (name, xs) ∈ es := by
  induction es with
  | nil => simp
  | cons e rest ih =>
      obtain ⟨n, ys⟩ := e
      rw [List.map_cons, List.nodup_cons] at nodup
      obtain ⟨fresh, nodup⟩ := nodup
      by_cases same : name = n
      · subst same
        have later : (name, xs) ∉ rest := by
          intro mem
          exact fresh (List.mem_map.2 ⟨_, mem, rfl⟩)
        simp [later, eq_comm]
      · simp [List.lookup_cons, beq_eq_false_iff_ne.2 same, ih nodup, same]

theorem mem_get_iff {r : Roster α} : x ∈ r.get name ↔ (name, x) ∈ r.toList := by
  rw [mem_toList_iff, get]
  constructor
  · intro mem
    cases found : r.entries.lookup name with
    | none => simp [found] at mem
    | some xs =>
        rw [found, Option.getD_some] at mem
        exact ⟨xs, (lookup_eq_some_iff r.nodup).1 found, mem⟩
  · rintro ⟨xs, listed, mem⟩
    rw [(lookup_eq_some_iff r.nodup).2 listed]
    exact mem

/-! ### The element that moves -/

def listed (es : List (String × List α)) : List (String × α) :=
  es.flatMap fun e => e.2.map (e.1, ·)

@[simp] theorem listed_cons (n : String) (xs : List α) (es : List (String × List α)) :
    listed ((n, xs) :: es) = xs.map (n, ·) ++ listed es := rfl

/-- The element that is picked is the first one, and all others are left in their order. -/
theorem listed_of_pick? {es es' : List (String × List α)} (h : pick? p es = some (x, es')) :
    ∃ source before after, p x = true ∧ (∀ e ∈ before, p e.2 = false) ∧
      listed es = before ++ (source, x) :: after ∧ listed es' = before ++ after := by
  induction es generalizing es' with
  | nil => simp [pick?] at h
  | cons e rest ih =>
      obtain ⟨n, xs⟩ := e
      rw [pick?] at h
      split at h
      case h_1 y found =>
          obtain ⟨rfl, rfl⟩ := Prod.mk.inj (Option.some.inj h)
          obtain ⟨holds, as, bs, rfl, earlier⟩ := List.find?_eq_some_iff_append.1 found
          have earlier : ∀ a ∈ as, p a = false := by simpa using earlier
          have erased : (as ++ y :: bs).eraseP p = as ++ bs := by
            rw [List.eraseP_append_right _ (by simpa using earlier),
              List.eraseP_cons_of_pos holds]
          refine ⟨n, as.map (n, ·), bs.map (n, ·) ++ listed rest, holds,
            by simpa using earlier, ?_, ?_⟩
          · simp
          · simp [erased]
      case h_2 absent =>
          obtain ⟨⟨y, es''⟩, picked, same⟩ := Option.map_eq_some_iff.1 h
          obtain ⟨rfl, rfl⟩ := Prod.mk.inj same
          obtain ⟨source, before, after, holds, earlier, whole, left⟩ := ih picked
          have none_here : ∀ a ∈ xs, p a = false := by simpa using absent
          refine ⟨source, xs.map (n, ·) ++ before, after, holds, ?_, ?_, ?_⟩
          · intro e mem
            rcases List.mem_append.1 mem with here | later
            · obtain ⟨a, inside, rfl⟩ := List.mem_map.1 here
              exact none_here a inside
            · exact earlier e later
          · simp [whole]
          · simp [left]

theorem pick?_eq_none_iff {es : List (String × List α)} :
    pick? p es = none ↔ ∀ e ∈ listed es, p e.2 = false := by
  induction es with
  | nil => simp [pick?, listed]
  | cons e rest ih =>
      obtain ⟨n, xs⟩ := e
      rw [pick?]
      split
      case h_1 y found =>
          have holds : p y = true := List.find?_some found
          have here : (n, y) ∈ xs.map (n, ·) :=
            List.mem_map_of_mem (List.mem_of_find?_eq_some found)
          rw [listed_cons]
          constructor
          · rintro ⟨⟩
          · intro all
            have fails := all (n, y) (List.mem_append_left _ here)
            rw [holds] at fails
            cases fails
      case h_2 absent =>
          have none_here : ∀ a ∈ xs, p a = false := by simpa using absent
          rw [Option.map_eq_none_iff, ih, listed_cons]
          constructor
          · intro later e mem
            rcases List.mem_append.1 mem with here | mem
            · obtain ⟨a, inside, rfl⟩ := List.mem_map.1 here
              exact none_here a inside
            · exact later e mem
          · intro all e mem
            exact all e (List.mem_append_right _ mem)

/-- Moving an element does nothing when no element satisfies the test, and otherwise takes
the first one away and puts it at the end of the named list. -/
theorem relocate_cases (r : Roster α) (p : α → Bool) (name : String) :
    (r.relocate p name = r ∧ ∀ e ∈ r.toList, p e.2 = false) ∨
    ∃ source x before after rest, p x = true ∧ (∀ e ∈ before, p e.2 = false) ∧
      r.toList = before ++ (source, x) :: after ∧ Roster.toList rest = before ++ after ∧
      r.relocate p name = rest.set name (rest.get name ++ [x]) := by
  unfold relocate
  split
  case h_1 absent => exact .inl ⟨rfl, pick?_eq_none_iff.1 absent⟩
  case h_2 x es picked =>
      obtain ⟨source, before, after, holds, earlier, whole, left⟩ := listed_of_pick? picked
      exact .inr ⟨source, x, before, after, ⟨es, names_of_pick? picked ▸ r.nodup⟩, holds, earlier,
        whole, left, rfl⟩

/-- An element that fails the test stays where it is. -/
theorem mem_get_relocate_iff {r : Roster α} (stays : p x = false) :
    x ∈ (r.relocate p name).get other ↔ x ∈ r.get other := by
  rcases relocate_cases r p name with ⟨same, -⟩ | ⟨source, y, before, after, rest, holds, -,
    whole, left, moved⟩
  · rw [same]
  · have apart : x ≠ y := by
      rintro rfl
      simp [holds] at stays
    have kept : x ∈ rest.get other ↔ x ∈ r.get other := by
      rw [mem_get_iff, mem_get_iff, whole, left]
      simp [apart]
    rw [moved, get_set]
    split
    case isTrue here =>
        subst here
        rw [List.mem_append, List.mem_singleton, or_iff_left apart]
        exact kept
    case isFalse => exact kept

/-- Moving an element loses none and brings none in. -/
theorem exists_mem_get_relocate_iff {r : Roster α} :
    (∃ other, x ∈ (r.relocate p name).get other) ↔ ∃ other, x ∈ r.get other := by
  rcases relocate_cases r p name with ⟨same, -⟩ | ⟨source, y, before, after, rest, -, -,
    whole, left, moved⟩
  · rw [same]
  · have before_iff : (∃ other, x ∈ r.get other) ↔ x = y ∨ ∃ other, x ∈ rest.get other := by
      simp only [mem_get_iff, whole, left, List.mem_append, List.mem_cons, Prod.mk.injEq]
      constructor
      · rintro ⟨other, mem | ⟨-, rfl⟩ | mem⟩
        · exact .inr ⟨other, .inl mem⟩
        · exact .inl rfl
        · exact .inr ⟨other, .inr mem⟩
      · rintro (rfl | ⟨other, mem | mem⟩)
        · exact ⟨source, .inr (.inl ⟨rfl, rfl⟩)⟩
        · exact ⟨other, .inl mem⟩
        · exact ⟨other, .inr (.inr mem)⟩
    rw [before_iff, moved]
    simp only [get_set]
    constructor
    · rintro ⟨other, mem⟩
      split at mem
      case isTrue here =>
          rcases List.mem_append.1 mem with mem | mem
          · exact .inr ⟨name, mem⟩
          · exact .inl (List.mem_singleton.1 mem)
      case isFalse => exact .inr ⟨other, mem⟩
    · rintro (rfl | ⟨other, mem⟩)
      · exact ⟨name, by simp⟩
      · refine ⟨other, ?_⟩
        split
        case isTrue here =>
            subst here
            exact List.mem_append_left _ mem
        case isFalse => exact mem

theorem perm_listed_setEntry (x : α) (es : List (String × List α)) :
    ((listed (setEntry name ((es.lookup name).getD [] ++ [x]) es)).map Prod.snd).Perm
      (x :: (listed es).map Prod.snd) := by
  induction es with
  | nil => simp [setEntry, listed]
  | cons e rest ih =>
      obtain ⟨n, ys⟩ := e
      by_cases same : n = name
      · subst same
        simp [setEntry, Function.comp_def]
      · have later : ((n, ys) :: rest).lookup name = rest.lookup name := by
          simp [List.lookup_cons, beq_eq_false_iff_ne.2 (Ne.symm same)]
        simp only [setEntry, if_neg same, later, listed_cons, List.map_append]
        exact (ih.append_left _).trans List.perm_middle

/-- Moving an element changes at most the order of the elements. -/
theorem perm_toList_relocate (r : Roster α) (p : α → Bool) (name : String) :
    ((r.relocate p name).toList.map Prod.snd).Perm (r.toList.map Prod.snd) := by
  rcases relocate_cases r p name with ⟨same, -⟩ | ⟨source, x, before, after, rest, -, -,
    whole, left, moved⟩
  · rw [same]
  · have added : ((rest.set name (rest.get name ++ [x])).toList.map Prod.snd).Perm
        (x :: rest.toList.map Prod.snd) := perm_listed_setEntry x rest.entries
    rw [moved, whole]
    refine added.trans ?_
    rw [left, List.map_append, List.map_append, List.map_cons]
    exact List.perm_middle.symm

/-- What is told apart in the whole roster is told apart under each name. -/
theorem nodup_get {r : Roster α} {β : Type} {key : α → β}
    (distinct : (r.toList.map fun e => key e.2).Nodup) (name : String) :
    ((r.get name).map key).Nodup := by
  rw [get]
  cases found : r.entries.lookup name with
  | none => exact List.nodup_nil
  | some xs =>
      have mem : (name, xs) ∈ r.entries := (lookup_eq_some_iff r.nodup).1 found
      have within : (xs.map (name, ·)).Sublist r.toList :=
        List.sublist_flatten_of_mem (List.mem_map.2 ⟨(name, xs), mem, rfl⟩)
      have sub := within.map fun e => key e.2
      rw [List.map_map] at sub
      exact sub.nodup distinct

/-- An element that is the only one to satisfy the test is then in the named list only. -/
theorem name_of_mem_relocate {r : Roster α} {β : Type} {key : α → β} {k : β}
    (distinct : (r.toList.map fun e => key e.2).Nodup) (only : ∀ y, p y = true ↔ key y = k)
    (mem : x ∈ (r.relocate p name).get other) (moves : key x = k) : other = name := by
  rcases relocate_cases r p name with ⟨same, none_moves⟩ | ⟨source, y, before, after, rest,
    holds, -, whole, left, moved⟩
  · rw [same, mem_get_iff] at mem
    have fails := none_moves _ mem
    rw [← Bool.not_eq_true, only] at fails
    exact absurd moves fails
  · rw [moved, get_set] at mem
    split at mem
    case isTrue here => exact here
    case isFalse =>
        -- The moved element has the same key, and no other one has it.
        rw [mem_get_iff, left] at mem
        rw [whole, List.map_append, List.map_cons] at distinct
        have fresh := (List.nodup_cons.1 (List.perm_middle.nodup_iff.1 distinct)).1
        rw [← List.map_append] at fresh
        have same : key x = key y := moves.trans ((only y).1 holds).symm
        exact absurd (List.mem_map.2 ⟨(other, x), mem, same⟩) fresh

end Roster

/-- Moving a drone leaves the drones of a board as far apart as they are. -/
theorem Board.nodup_moveDrone_iff {b : Board} {id : String} {lane : LaneId} :
    ((b.moveDrone id lane).drones.toList.map fun e => e.2.id).Nodup ↔
      (b.drones.toList.map fun e => e.2.id).Nodup := by
  have moved := (Roster.perm_toList_relocate b.drones (fun d => d.id = id) lane).map Drone.id
  rw [List.map_map, List.map_map] at moved
  exact moved.nodup_iff

end DroneTactics
