import DroneTactics.Proofs.Selection.CardStep
import DroneTactics.Proofs.Selection.MoveStep
import DroneTactics.Proofs.Targeting.Payment
import DroneTactics.Proofs.Targeting.Standing

/-!
What the phases of a flow offer is on the boards of the turn that brings them in. For a card
these are the boards that the cost leaves; paying takes no drone off them, so an offered
drone is on the boards of the turn themselves.
-/

namespace DroneTactics

namespace Situation

variable {s : Situation} {definition : Definition} {payment : Option Payment} {id : String}
  {t : Target}

theorem presents_playedAs_iff :
    ((s.playedAs definition).afterPaying payment).Presents t ↔
      (s.afterPaying payment).Presents t := by
  cases payment with
  | none => exact ⟨fun h => ⟨h.drone, h.card⟩, fun h => ⟨h.drone, h.card⟩⟩
  | some => exact ⟨fun h => ⟨h.drone, h.card⟩, fun h => ⟨h.drone, h.card⟩⟩

theorem has_afterPaying_iff : (s.afterPaying payment).field.Has id ↔ s.field.Has id := by
  cases payment with
  | none => exact Iff.rfl
  | some p => exact Payment.has_applyTo_iff

theorem sound_afterPaying (sound : s.field.Sound) : (s.afterPaying payment).field.Sound := by
  cases payment with
  | none => exact sound
  | some p => exact Payment.sound_applyTo sound

theorem holds_afterPaying_iff (other : ∀ p, payment = some p → p.target.id ≠ id) :
    (s.afterPaying payment).field.Holds id ↔ s.field.Holds id := by
  cases payment with
  | none => exact Iff.rfl
  | some p => exact Payment.holds_applyTo_iff (other p rfl)

theorem Presents.has (h : (s.afterPaying payment).Presents t) (drone : t.kind = .drone) :
    s.field.Has t.id :=
  has_afterPaying_iff.1 (h.drone drone).has

end Situation

/-! ### Cards -/

namespace CardFlow

variable {r : Referee} {s : Situation} {card : Card} {payment : Option Payment}
  {phase next : CardPhase} {target t : Target}

theorem presents_of_enters
    (enters : Enters r (s.playedAs (.card card)) card payment next) (mem : t ∈ next.offers) :
    (s.afterPaying next.payment?).Presents t := by
  rw [payment?_of_enters enters]
  cases enters with
  | untargeted => exact absurd mem List.not_mem_nil
  | fizzled => exact absurd mem List.not_mem_nil
  | offered _ found =>
      have there := Referee.presents_of_mem_targets found mem
      exact Situation.presents_playedAs_iff.1 there

theorem presents_of_begins (begins : Begins r s card next) (mem : t ∈ next.offers) :
    (s.afterPaying next.payment?).Presents t := by
  cases begins with
  | unpayable => exact absurd mem List.not_mem_nil
  | pointless => exact absurd mem List.not_mem_nil
  | cost _ found =>
      have there := Referee.presents_of_mem_costTargets found mem
      exact ⟨there.drone, there.card⟩
  | free _ enters => exact presents_of_enters enters mem

/-- A picked target brings in a phase whose offers are on the boards that the cost leaves. -/
theorem presents_of_chooses (chooses : Chooses r s phase target next) (mem : t ∈ next.offers) :
    (s.afterPaying next.payment?).Presents t := by
  cases chooses with
  | costGone => exact absurd mem List.not_mem_nil
  | primaryGone => exact absurd mem List.not_mem_nil
  | only => exact absurd mem List.not_mem_nil
  | primaryAlone => exact absurd mem List.not_mem_nil
  | second => exact absurd mem List.not_mem_nil
  | costMoves =>
      obtain ⟨lane, -, rfl⟩ := List.mem_map.1 mem
      exact ⟨nofun, nofun⟩
  | costPaid _ _ enters => exact presents_of_enters enters mem
  | destination enters => exact presents_of_enters enters mem
  | primary _ _ found =>
      subst found
      have there := (Situation.presents_of_mem_secondaryTargets mem).1
      exact Situation.presents_playedAs_iff.1 there

end CardFlow

/-! ### Moves -/

namespace MoveFlow

variable {rules : Rules} {s : Situation} {phase next : MovePhase} {target t : Target}

theorem shownInLane_of_beginSingle (begins : beginSingle rules s = .ok next)
    (mem : t ∈ next.offers) : s.field.ShowsInLane t := by
  obtain ⟨-, -, begins⟩ := bind_eq_ok_iff.1 begins
  obtain rfl := pure_eq_ok_iff.1 begins
  obtain ⟨⟨owner, board⟩, owned, inside⟩ := List.mem_flatMap.1 mem
  obtain ⟨⟨lane, d⟩, along, passes⟩ := List.mem_filterMap.1 inside
  obtain ⟨-, same⟩ := Option.ite_none_right_eq_some.1 passes
  obtain rfl := Option.some.inj same
  obtain ⟨known, stands⟩ := Board.mem_dronesAlong_iff.1 along
  exact Situation.shownInLane_of_mem_boards owned known stands

theorem shows_of_begin {kind : Kind} (begins : begin rules s kind = .ok next)
    (mem : t ∈ next.offers) (drone : t.kind = .drone) : s.field.Shows t := by
  cases kind with
  | single => exact (shownInLane_of_beginSingle begins mem).shows
  | group =>
      obtain rfl := pure_eq_ok_iff.1 begins
      obtain ⟨lane, -, rfl⟩ := List.mem_map.1 mem
      cases drone

theorem not_drone_of_toDestination {lane : LaneId} {selected : List Target}
    (mem : t ∈ (toDestination s lane selected).offers) : t.kind ≠ .drone := by
  obtain ⟨goal, -, rfl⟩ := List.mem_map.1 mem
  nofun

theorem shows_of_chooses (chooses : Chooses rules s phase target next) (mem : t ∈ next.offers)
    (drone : t.kind = .drone) : t ∈ phase.offers ∨ s.field.Shows t := by
  cases chooses with
  | droneGone => exact absurd mem List.not_mem_nil
  | destination => exact absurd mem List.not_mem_nil
  | destinationLane => exact absurd mem List.not_mem_nil
  | drone =>
      obtain ⟨lane, -, rfl⟩ := List.mem_map.1 mem
      cases drone
  | sourceLane owned =>
      obtain ⟨d, inside, rfl⟩ := List.mem_map.1 mem
      obtain ⟨listed, player⟩ := Battlefield.mem_boards_of_board? owned
      exact .inr ⟨_, listed, _, d, (List.mem_filter.1 inside).1, by rw [player]⟩
  | dropped => exact .inl mem
  | full => exact .inl mem
  | last => exact absurd drone (not_drone_of_toDestination mem)
  | added => exact .inl mem

end MoveFlow

end DroneTactics
