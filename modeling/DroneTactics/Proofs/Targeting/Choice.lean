import DroneTactics.Targeting.Target

/-!
What a pick stands for. Of several offered targets with one key only the first can be
picked, and a picked drone is looked up by its id on the boards of that moment.
-/

namespace DroneTactics

def FirstOf (offers : List Target) (t : Target) : Prop := pick? offers t = some t

instance (offers : List Target) (t : Target) : Decidable (FirstOf offers t) :=
  inferInstanceAs (Decidable (pick? offers t = some t))

section

variable {offers : List Target} {picked t : Target}

theorem pick?_congr (h : t.key = picked.key) : pick? offers t = pick? offers picked := by
  simp only [pick?, h]

theorem key_of_pick? (h : pick? offers picked = some t) : t.key = picked.key := by
  simpa [pick?] using List.find?_some h

/-- What a pick means is the first offered target with its key. -/
theorem firstOf_of_pick? (h : pick? offers picked = some t) : FirstOf offers t := by
  rw [FirstOf, pick?_congr (key_of_pick? h), h]

theorem pick?_eq_none_iff : pick? offers picked = none ↔ ∀ t ∈ offers, t.key ≠ picked.key := by
  simp [pick?]

theorem pick?_eq_some_iff :
    pick? offers picked = some t ↔ FirstOf offers t ∧ t.key = picked.key := by
  constructor
  · intro found
    exact ⟨firstOf_of_pick? found, key_of_pick? found⟩
  · rintro ⟨first, same⟩
    rw [← pick?_congr same]
    exact first

theorem FirstOf.mem (h : FirstOf offers t) : t ∈ offers :=
  List.mem_of_find?_eq_some h

theorem FirstOf.ne_nil (h : FirstOf offers t) : offers ≠ [] :=
  List.ne_nil_of_mem h.mem

end

/-- Sides of lanes under one owner are told apart by their lanes. -/
theorem firstOf_map_ofLane_iff {lanes : List LaneId} {owner : PlayerId} {t : Target} :
    FirstOf (lanes.map (.ofLane · owner)) t ↔ ∃ lane ∈ lanes, t = .ofLane lane owner := by
  constructor
  · intro first
    obtain ⟨lane, mem, rfl⟩ := List.mem_map.1 first.mem
    exact ⟨lane, mem, rfl⟩
  · rintro ⟨lane, mem, rfl⟩
    induction lanes with
    | nil => simp at mem
    | cons l rest ih =>
        by_cases same : l = lane
        · subst same
          simp [FirstOf, pick?]
        · -- A lane before this one has another key and does not hide it.
          have other : (Target.ofLane l owner).key ≠ (Target.ofLane lane owner).key := by
            simp [Target.key, Target.ofLane, same]
          have later : lane ∈ rest := (List.mem_cons.1 mem).resolve_left (Ne.symm same)
          rw [FirstOf, List.map_cons, pick?, List.find?_cons_of_neg (by simpa using other)]
          exact ih later

/-- A lane counts as the place of a target: for a drone the one in which the first drone
of its id stands, and for anything else the one that is given. -/
def Battlefield.Locates (f : Battlefield) (t : Target) (elsewhere lane : Option LaneId) :
    Prop :=
  if t.kind = .drone then ∃ st, f.station? t.id = some st ∧ lane = some st.lane
  else lane = elsewhere

/-- A target has a place, unless it is a drone that stands nowhere. -/
theorem Battlefield.locates_or_gone (f : Battlefield) (t : Target)
    (elsewhere : Option LaneId) :
    (∃ lane, f.Locates t elsewhere lane) ∨
      t.kind = .drone ∧ f.station? t.id = none := by
  unfold Battlefield.Locates
  by_cases drone : t.kind = .drone
  · cases found : f.station? t.id with
    | none => exact .inr ⟨drone, rfl⟩
    | some st => exact .inl ⟨some st.lane, by simp [drone]⟩
  · exact .inl ⟨elsewhere, by simp [drone]⟩

end DroneTactics
