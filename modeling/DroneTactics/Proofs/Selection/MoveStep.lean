import DroneTactics.Proofs.Fault
import DroneTactics.Proofs.Targeting.Choice
import DroneTactics.Selection.MoveFlow

/-!
The turns of the movement flow. Everything that a turn can do is said here once, phase by
phase and with its conditions, for single moves and for groups.
-/

namespace DroneTactics.MoveFlow

def Selected (selected : List Target) (target : Target) : Prop :=
  ∃ t ∈ selected, t.key = target.key

inductive Chooses (rules : Rules) (s : Situation) : MovePhase → Target → MovePhase → Prop
  | droneGone {offers : List Target} {target : Target}
      (gone : s.field.station? target.id = none) : Chooses rules s (.drone offers) target .idle
  | drone {offers : List Target} {target : Target} {st : Station}
      (found : s.field.station? target.id = some st) :
      Chooses rules s (.drone offers) target (.destination target st.lane
        ((s.field.neighbours (some st.lane)).map (.ofLane · st.owner)))
  | destination {drone target : Target} {lane : LaneId} {offers : List Target} :
      Chooses rules s (.destination drone lane offers) target (.complete [drone] lane target.id)
  | sourceLane {count : Option Int} {offers : List Target} {target : Target} {board : Board}
      (owned : s.field.board? s.acting = some board)
      (asked : rules.askToMove (board.dronesIn target.id) = .ok ()) :
      Chooses rules s (.sourceLane count offers) target (.drones target.id count []
        (((board.dronesIn target.id).filter fun d => s.canMove rules d target.id s.acting).map
          (.ofDrone · s.acting target.id)))
  | dropped {lane : LaneId} {count : Option Int} {selected offers : List Target}
      {target : Target} (inside : Selected selected target) :
      Chooses rules s (.drones lane count selected offers) target
        (.drones lane count (selected.filter (·.key ≠ target.key)) offers)
  | full {lane : LaneId} {count : Option Int} {selected offers : List Target} {target : Target}
      (outside : ¬Selected selected target)
      (enough : ∃ n, count = some n ∧ n ≤ (selected.length : Int)) :
      Chooses rules s (.drones lane count selected offers) target
        (.drones lane count selected offers)
  | last {lane : LaneId} {selected offers : List Target} {target : Target}
      (outside : ¬Selected selected target) :
      Chooses rules s
        (.drones lane (some ((selected ++ [target]).length : Int)) selected offers) target
        (toDestination s lane (selected ++ [target]))
  | added {lane : LaneId} {count : Option Int} {selected offers : List Target}
      {target : Target} (outside : ¬Selected selected target)
      (room : ∀ n, count = some n → ((selected ++ [target]).length : Int) < n) :
      Chooses rules s (.drones lane count selected offers) target
        (.drones lane count (selected ++ [target]) offers)
  | destinationLane {lane : LaneId} {selected offers : List Target} {target : Target} :
      Chooses rules s (.destinationLane lane selected offers) target
        (.complete selected lane target.id)

variable {rules : Rules} {s : Situation} {phase next : MovePhase} {target : Target}

theorem selected_iff {selected : List Target} :
    (selected.any (·.key = target.key)) = true ↔ Selected selected target := by
  simp [Selected]

theorem toggle_eq_iff {lane : LaneId} {count : Option Int} {selected offers : List Target} :
    toggle s lane count selected offers target = next ↔
      Chooses rules s (.drones lane count selected offers) target next := by
  constructor
  · rintro rfl
    unfold toggle
    split
    case isTrue inside => exact .dropped (selected_iff.1 inside)
    case isFalse outside =>
        have outside : ¬Selected selected target := fun h => outside (selected_iff.2 h)
        split
        case isTrue enough =>
            exact .full outside (by simpa using (Option.any_eq_true _ _).1 enough)
        case isFalse room =>
            simp only
            split
            case isTrue last =>
                subst last
                exact .last outside
            case isFalse more =>
                refine .added outside ?_
                rintro n rfl
                simp only [Option.any_some, decide_eq_true_eq, Option.some.injEq,
                  List.length_append, List.length_singleton] at room more ⊢
                omega
  · intro h
    cases h with
    | dropped inside => rw [toggle, if_pos (selected_iff.2 inside)]
    | full outside enough =>
        obtain ⟨n, rfl, enough⟩ := enough
        rw [toggle, if_neg (fun h => outside (selected_iff.1 h)), if_pos (by simpa using enough)]
    | last outside =>
        have short : ¬((selected ++ [target]).length : Int) ≤ (selected.length : Int) := by
          rw [List.length_append, List.length_singleton]
          omega
        rw [toggle, if_neg (fun h => outside (selected_iff.1 h)),
          if_neg (by simpa only [Option.any_some, decide_eq_true_eq] using short)]
        exact if_pos rfl
    | added outside room =>
        have notFull : ¬(count.any fun n => n ≤ (selected.length : Int)) = true := by
          intro enough
          obtain ⟨n, rfl, enough⟩ := (Option.any_eq_true _ _).1 enough
          have bound := room n rfl
          rw [List.length_append, List.length_singleton] at bound
          have enough : n ≤ (selected.length : Int) := by simpa using enough
          omega
        have notLast : count ≠ some ((selected ++ [target]).length : Int) := by
          rintro rfl
          exact absurd (room _ rfl) (Int.lt_irrefl _)
        rw [toggle, if_neg (fun h => outside (selected_iff.1 h)), if_neg notFull]
        exact if_neg notLast

theorem chooseSourceLane_eq_ok_iff {count : Option Int} {offers : List Target} :
    chooseSourceLane rules s count target.id = .ok next ↔
      Chooses rules s (.sourceLane count offers) target next := by
  constructor
  · intro h
    unfold chooseSourceLane at h
    split at h
    case h_1 board owned =>
        obtain ⟨⟨⟩, asked, h⟩ := bind_eq_ok_iff.1 h
        obtain rfl := pure_eq_ok_iff.1 h
        exact .sourceLane owned asked
    case h_2 => cases h
  · intro h
    cases h with
    | sourceLane owned asked =>
        rw [chooseSourceLane, owned]
        exact bind_eq_ok_iff.2 ⟨(), asked, rfl⟩

theorem chooseDrone_eq_iff {offers : List Target} :
    chooseDrone s target = next ↔ Chooses rules s (.drone offers) target next := by
  constructor
  · rintro rfl
    unfold chooseDrone
    split
    case h_1 st found => exact .drone found
    case h_2 gone => exact .droneGone gone
  · intro h
    cases h with
    | droneGone gone => simp only [chooseDrone, gone]
    | drone found => simp only [chooseDrone, found]

theorem choose_eq_ok_iff (waits : phase.offers ≠ []) :
    choose rules s phase target = .ok next ↔ Chooses rules s phase target next := by
  cases phase with
  | idle => exact absurd rfl waits
  | drone offers =>
      rw [choose, pure_eq_ok_iff]
      exact chooseDrone_eq_iff
  | destination drone lane offers =>
      rw [choose, pure_eq_ok_iff]
      constructor
      · rintro rfl
        exact .destination
      · rintro ⟨⟩
        rfl
  | sourceLane count offers => exact chooseSourceLane_eq_ok_iff
  | drones lane count selected offers =>
      rw [choose, pure_eq_ok_iff]
      exact toggle_eq_iff
  | destinationLane lane selected offers =>
      rw [choose, pure_eq_ok_iff]
      constructor
      · rintro rfl
        exact .destinationLane
      · rintro ⟨⟩
        rfl
  | complete => exact absurd rfl waits

/-! ### One event -/

variable {event : Event} {picked : Target}

theorem advance_select_of_some (found : pick? phase.offers picked = some target) :
    advance rules s phase (.select picked) = choose rules s phase target := by
  simp only [advance, found]

theorem advance_select_of_none (missing : pick? phase.offers picked = none) :
    advance rules s phase (.select picked) = .ok phase := by
  simp only [advance, missing]
  rfl

/-- What confirming leads to: a group of at least one drone is complete. -/
theorem confirm_cases (s : Situation) (phase : MovePhase) : confirm s phase = phase ∨
    ∃ lane count selected offers, phase = .drones lane count selected offers ∧
      selected ≠ [] ∧ confirm s phase = toDestination s lane selected := by
  cases phase with
  | drones lane count selected offers =>
      cases selected with
      | nil => exact .inl rfl
      | cons => exact .inr ⟨lane, count, _, offers, rfl, by simp, rfl⟩
  | _ => exact .inl rfl

/-- An event calls the flow off, changes nothing, completes a group, or picks the first
of some offered targets with one key. -/
theorem advance_cases (h : advance rules s phase event = .ok next) :
    next = .idle ∨ next = phase ∨
      (∃ lane count selected offers, phase = .drones lane count selected offers ∧
        selected ≠ [] ∧ next = toDestination s lane selected) ∨
      ∃ target, FirstOf phase.offers target ∧ Chooses rules s phase target next := by
  cases event with
  | cancel => exact .inl (pure_eq_ok_iff.1 h).symm
  | confirm =>
      obtain rfl := pure_eq_ok_iff.1 h
      rcases confirm_cases s phase with same | ⟨lane, count, selected, offers, h⟩
      · exact .inr (.inl same)
      · exact .inr (.inr (.inl ⟨lane, count, selected, offers, h⟩))
  | select picked =>
      cases found : pick? phase.offers picked with
      | none =>
          rw [advance_select_of_none found] at h
          exact .inr (.inl (Except.ok.inj h).symm)
      | some target =>
          rw [advance_select_of_some found] at h
          have first := firstOf_of_pick? found
          exact .inr (.inr (.inr ⟨target, first, (choose_eq_ok_iff first.ne_nil).1 h⟩))

/-- An offered target is picked by anything with its key. -/
theorem Chooses.advance_select (h : Chooses rules s phase target next)
    (found : pick? phase.offers picked = some target) :
    MoveFlow.advance rules s phase (.select picked) = .ok next := by
  rw [advance_select_of_some found]
  exact (choose_eq_ok_iff (firstOf_of_pick? found).ne_nil).2 h

/-- An offered target that is the first with its key can be picked by itself. -/
theorem Chooses.advance (h : Chooses rules s phase target next)
    (first : FirstOf phase.offers target) :
    MoveFlow.advance rules s phase (.select target) = .ok next :=
  h.advance_select first

/-- A group of at least one drone can be confirmed. -/
theorem advance_confirm {lane : LaneId} {count : Option Int} {selected offers : List Target}
    (some_in : selected ≠ []) :
    MoveFlow.advance rules s (.drones lane count selected offers) .confirm =
      .ok (toDestination s lane selected) := by
  cases selected with
  | nil => exact absurd rfl some_in
  | cons => rfl

end DroneTactics.MoveFlow
