import DroneTactics.Proofs.Board.Relocation

/-!
Moving the same element twice. An element that alone satisfies the test is taken out of the
roster and put at the end of the named list; all other elements keep their places and their
order. So where it stood before does not matter, and a board on which a drone has been moved
may be asked to move it again.
-/

namespace DroneTactics

namespace Roster

variable {α : Type} {p : α → Bool} {name other : String} {x : α} {r : Roster α}

def matching (r : Roster α) (p : α → Bool) : List α := (r.toList.map Prod.snd).filter p

def without (r : Roster α) (p : α → Bool) : Roster α where
  entries := r.entries.map fun e => (e.1, e.2.filter (!p ·))
  nodup := by simpa [Function.comp_def] using r.nodup

/-! ### Taking out and putting in -/

theorem setEntry_setEntry (xs ys : List α) (es : List (String × List α)) :
    setEntry name ys (setEntry name xs es) = setEntry name ys es := by
  induction es with
  | nil => simp [setEntry]
  | cons e rest ih =>
      obtain ⟨n, zs⟩ := e
      by_cases same : n = name
      · simp [setEntry, same]
      · simp [setEntry, same, ih]

theorem set_set (r : Roster α) (xs ys : List α) :
    (r.set name xs).set name ys = r.set name ys := by
  simp only [set, setEntry_setEntry]

theorem without_set (r : Roster α) (p : α → Bool) (xs : List α) :
    (r.set name xs).without p = (r.without p).set name (xs.filter (!p ·)) := by
  have entries (es : List (String × List α)) :
      (setEntry name xs es).map (fun e => (e.1, e.2.filter (!p ·))) =
        setEntry name (xs.filter (!p ·)) (es.map fun e => (e.1, e.2.filter (!p ·))) := by
    induction es with
    | nil => rfl
    | cons e rest ih =>
        obtain ⟨n, zs⟩ := e
        by_cases same : n = name
        · simp [setEntry, same]
        · simp [setEntry, same, ih]
  simp only [without, set, entries]

@[simp] theorem without_without (r : Roster α) (p : α → Bool) :
    (r.without p).without p = r.without p := by
  simp [without, Function.comp_def]

theorem get_without (r : Roster α) (p : α → Bool) (name : String) :
    (r.without p).get name = (r.get name).filter (!p ·) := by
  have entries (es : List (String × List α)) :
      ((es.map fun e => (e.1, e.2.filter (!p ·))).lookup name).getD [] =
        ((es.lookup name).getD []).filter (!p ·) := by
    induction es with
    | nil => rfl
    | cons e rest ih =>
        obtain ⟨n, xs⟩ := e
        by_cases same : name = n
        · simp [same]
        · simp [List.lookup_cons, beq_eq_false_iff_ne.2 same, ih]
  exact entries r.entries

theorem get_set_get (r : Roster α) (name other : String) :
    (r.set name (r.get name)).get other = r.get other := by
  rw [get_set]
  split
  case isTrue same => rw [same]
  case isFalse => rfl

/-! ### The only element that satisfies the test -/

theorem eraseP_of_filter_eq {xs : List α} (alone : xs.filter p = [x]) :
    xs.eraseP p = xs.filter (!p ·) := by
  induction xs with
  | nil => cases alone
  | cons y ys ih =>
      by_cases holds : p y = true
      · rw [List.filter_cons_of_pos holds] at alone
        have left : ∀ z ∈ ys, p z = false := by simpa using (List.cons.inj alone).2
        rw [List.eraseP_cons_of_pos holds, List.filter_cons_of_neg (by simp [holds])]
        exact (List.filter_eq_self.2 (by simpa using left)).symm
      · rw [List.filter_cons_of_neg holds] at alone
        rw [List.eraseP_cons_of_neg holds, List.filter_cons_of_pos (by simpa using holds),
          ih alone]

theorem pick?_of_alone {es : List (String × List α)}
    (alone : ((listed es).map Prod.snd).filter p = [x]) :
    pick? p es = some (x, es.map fun e => (e.1, e.2.filter (!p ·))) := by
  induction es with
  | nil => cases alone
  | cons e rest ih =>
      obtain ⟨n, xs⟩ := e
      have split : xs.filter p ++ ((listed rest).map Prod.snd).filter p = [x] := by
        simpa [Function.comp_def] using alone
      -- The only element stands either further on or here, and then no other list loses one.
      rcases List.append_eq_singleton_iff.1 split with ⟨absent, later⟩ | ⟨here, absent⟩
      · have fails : ∀ y ∈ xs, p y = false := by simpa using absent
        have missing : xs.find? p = none := by simpa using fails
        have kept : xs.filter (!p ·) = xs := List.filter_eq_self.2 (by simpa using fails)
        simp [pick?, missing, ih later, kept]
      · have found : xs.find? p = some x := by
          rw [← List.head?_filter, here, List.head?_cons]
        have fails : ∀ e ∈ rest, ∀ y ∈ e.2, p y = false := by
          intro e mem y stands
          have inside : y ∈ (listed rest).map Prod.snd :=
            List.mem_map.2 ⟨(e.1, y), List.mem_flatMap.2 ⟨e, mem, by simpa using stands⟩, rfl⟩
          simpa using List.filter_eq_nil_iff.1 absent y inside
        have kept : rest.map (fun e => (e.1, e.2.filter (!p ·))) = rest := by
          refine List.map_congr_left (fun e mem => ?_) |>.trans (List.map_id rest)
          rw [List.filter_eq_self.2 (by simpa using fails e mem), id]
        simp [pick?, found, eraseP_of_filter_eq here, kept]

theorem relocate_of_none (absent : r.matching p = []) : r.relocate p name = r := by
  rcases relocate_cases r p name with ⟨same, -⟩ | ⟨source, x, before, after, -, holds, -, whole, -⟩
  · exact same
  · simp [matching, whole, holds] at absent

theorem relocate_of_alone (alone : r.matching p = [x]) :
    r.relocate p name = (r.without p).set name ((r.without p).get name ++ [x]) := by
  have picked := pick?_of_alone alone
  unfold relocate
  split
  case h_1 absent => cases absent.symm.trans picked
  case h_2 y es found =>
      obtain ⟨rfl, rfl⟩ := Prod.mk.inj (Option.some.inj (found.symm.trans picked))
      rfl

theorem matching_relocate (alone : r.matching p = [x]) :
    (r.relocate p name).matching p = [x] := by
  have same := (perm_toList_relocate r p name).filter p
  rw [← matching, ← matching, alone] at same
  exact List.perm_singleton.1 same

theorem without_relocate (alone : r.matching p = [x]) :
    (r.relocate p name).without p = (r.without p).set name ((r.without p).get name) := by
  have holds : p x = true := by
    have mem : x ∈ r.matching p := by simp [alone]
    exact (List.mem_filter.1 mem).2
  rw [relocate_of_alone alone, without_set, without_without, List.filter_append,
    ← get_without, without_without]
  simp [holds]

/-! ### Moving twice -/

/-- What is told apart by a key has at most one element of that key. -/
theorem matching_of_nodup {β : Type} [DecidableEq β] {key : α → β}
    (distinct : (r.toList.map fun e => key e.2).Nodup) (k : β) :
    r.matching (fun x => key x = k) = [] ∨ ∃ x, r.matching (fun x => key x = k) = [x] := by
  have sub : ((r.matching fun x => key x = k).map key).Sublist (r.toList.map fun e => key e.2) := by
    have := (List.filter_sublist (p := fun x => key x = k) (l := r.toList.map Prod.snd)).map key
    simpa [matching, Function.comp_def] using this
  have nodup := sub.nodup distinct
  cases found : r.matching (fun x => key x = k) with
  | nil => exact .inl rfl
  | cons x rest =>
      cases rest with
      | nil => exact .inr ⟨x, rfl⟩
      | cons y more =>
          have keyed : ∀ z ∈ r.matching (fun x => key x = k), key z = k := by
            intro z mem
            simpa using (List.mem_filter.1 mem).2
          rw [found] at nodup keyed
          have same : key x = key y := (keyed x (by simp)).trans (keyed y (by simp)).symm
          simp [same] at nodup

/-- Where an element goes does not depend on where it was moved to before. -/
theorem get_relocate_relocate {first : String}
    (few : r.matching p = [] ∨ ∃ x, r.matching p = [x]) :
    ((r.relocate p first).relocate p name).get other = (r.relocate p name).get other := by
  rcases few with absent | ⟨x, alone⟩
  · rw [relocate_of_none absent]
  · -- Taken out again, the element leaves an entry for `first` at most.
    rw [relocate_of_alone (matching_relocate alone), without_relocate alone,
      relocate_of_alone alone, get_set_get, get_set _ name, get_set_get, get_set]

/-- An element that has been moved to a name stays there, and the names keep their order. -/
theorem relocate_relocate_self (few : r.matching p = [] ∨ ∃ x, r.matching p = [x]) :
    (r.relocate p name).relocate p name = r.relocate p name := by
  rcases few with absent | ⟨x, alone⟩
  · rw [relocate_of_none absent, relocate_of_none absent]
  · rw [relocate_of_alone (matching_relocate alone), without_relocate alone,
      relocate_of_alone alone, set_set, get_set_get]

end Roster

namespace Board

variable {b : Board} {id : String} {lane : LaneId}

theorem discard_discard (b : Board) (cardId : String) :
    (b.discard cardId).discard cardId = b.discard cardId := by
  simp [discard]

theorem moveDrone_moveDrone_self (distinct : (b.drones.toList.map fun e => e.2.id).Nodup) :
    (b.moveDrone id lane).moveDrone id lane = b.moveDrone id lane := by
  have few := Roster.matching_of_nodup distinct id
  simp only [moveDrone, Roster.relocate_relocate_self few]

theorem dronesIn_moveDrone_moveDrone {before other : LaneId}
    (distinct : (b.drones.toList.map fun e => e.2.id).Nodup) :
    ((b.moveDrone id before).moveDrone id lane).dronesIn other =
      (b.moveDrone id lane).dronesIn other :=
  Roster.get_relocate_relocate (Roster.matching_of_nodup distinct id)

end Board

end DroneTactics
