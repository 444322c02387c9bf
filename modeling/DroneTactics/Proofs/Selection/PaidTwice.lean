import DroneTactics.Proofs.Board.MovedTwice
import DroneTactics.Proofs.Selection.Resemblance
import DroneTactics.Proofs.Targeting.Mobility
import DroneTactics.Proofs.Targeting.Payment

/-!
A cost that is paid already. At every event a flow works out anew which boards the chosen cost
leaves, from the boards that it is given. Where the payer's drones are told apart by their ids
it may be given boards on which the cost is paid: paying again changes nothing, so neither the
targets nor what an event leads to depend on when the cost is settled.
-/

namespace DroneTactics

variable {p q : Payment} {f : Battlefield} {b : Board} {s : Situation}

def Battlefield.SameDrones (f g : Battlefield) : Prop :=
  ∀ lane, f.first.dronesIn lane = g.first.dronesIn lane ∧
    f.second.dronesIn lane = g.second.dronesIn lane

theorem Battlefield.sameDrones_withBoard {c : Board} (player : b.player = c.player)
    (lanes : ∀ lane, b.dronesIn lane = c.dronesIn lane) :
    (f.withBoard b).SameDrones (f.withBoard c) := by
  intro lane
  unfold Battlefield.withBoard
  rw [player]
  split
  case isTrue => exact ⟨lanes lane, rfl⟩
  case isFalse =>
      split
      case isTrue => exact ⟨rfl, lanes lane⟩
      case isFalse => exact ⟨rfl, rfl⟩

namespace Payment

theorem applyTo_applyTo (owned : f.board? p.target.owner = some b)
    (owner : q.target.owner = p.target.owner) :
    q.applyTo (p.applyTo f) = f.withBoard (q.change (p.change b)) := by
  have player : (p.change b).player = p.target.owner := by
    rw [player_change]
    exact (Battlefield.mem_boards_of_board? owned).2
  -- The second payment finds the board that the first one has put in place.
  have found : (f.withBoard (p.change b)).board? q.target.owner = some (p.change b) := by
    rw [owner]
    exact Battlefield.board?_withBoard owned player
  rw [applyTo_of_owned owned, applyTo_of_owned found]
  exact Battlefield.withBoard_withBoard (by simp)

theorem change_change (distinct : (b.drones.toList.map fun e => e.2.id).Nodup) :
    p.change (p.change b) = p.change b := by
  rcases change_cases p with stays | discards | ⟨lane, moves⟩
  · rw [stays, stays]
  · rw [discards, discards]
    exact Board.discard_discard b _
  · rw [moves, moves]
    exact Board.moveDrone_moveDrone_self distinct

theorem applyTo_applyTo_self
    (distinct : ∀ b, f.board? p.target.owner = some b →
      (b.drones.toList.map fun e => e.2.id).Nodup) :
    p.applyTo (p.applyTo f) = p.applyTo f := by
  cases owned : f.board? p.target.owner with
  | none => rw [applyTo_of_nobody owned, applyTo_of_nobody owned]
  | some b =>
      rw [applyTo_applyTo owned rfl, change_change (distinct b owned), applyTo_of_owned owned]

theorem sameDrones_of_moved {before lane : LaneId}
    (distinct : ∀ b, f.board? p.target.owner = some b →
      (b.drones.toList.map fun e => e.2.id).Nodup)
    (drone : p.target.kind = .drone) (same : q.target.key = p.target.key)
    (first : p.destinationLane = some before) (second : q.destinationLane = some lane) :
    (q.applyTo (p.applyTo f)).SameDrones (q.applyTo f) := by
  obtain ⟨kind, id, owner⟩ := TargetKey.mk.inj same
  cases owned : f.board? p.target.owner with
  | none =>
      rw [applyTo_of_nobody owned]
      exact fun _ => ⟨rfl, rfl⟩
  | some b =>
      have moved : p.change b = b.moveDrone p.target.id before := by
        simp only [change, drone, first]
      have moves (c : Board) : q.change c = c.moveDrone p.target.id lane := by
        simp only [change, kind, drone, second, id]
      rw [applyTo_applyTo owned owner, applyTo_of_owned (owner ▸ owned)]
      refine Battlefield.sameDrones_withBoard (by simp) fun l => ?_
      rw [moved, moves, moves]
      exact Board.dronesIn_moveDrone_moveDrone (distinct b owned)

/-- It makes no difference whether a payment has been made on the boards already: to the
boards that it leaves, to those that another move of the same drone leaves, and to what is
found and chosen on them. -/
structure Settles (p : Payment) (f : Battlefield) : Prop where
  again : p.applyTo (p.applyTo f) = p.applyTo f
  elsewhere : ∀ (q : Payment) before lane, p.target.kind = .drone →
    q.target.key = p.target.key → p.destinationLane = some before →
    q.destinationLane = some lane → (q.applyTo (p.applyTo f)).SameDrones (q.applyTo f)
  targets : ∀ (r : Referee) (s : Situation),
    r.targetsAfter (s.on (p.applyTo f)) (some p) = r.targetsAfter (s.on f) (some p)
  effect : ∀ (r : Referee) (s : Situation) card offers event,
    CardFlow.advance r (s.on (p.applyTo f)) (.effect card (some p) offers) event =
      CardFlow.advance r (s.on f) (.effect card (some p) offers) event
  secondary : ∀ (r : Referee) (s : Situation) card primary offers event,
    CardFlow.advance r (s.on (p.applyTo f)) (.secondary card primary (some p) offers) event =
      CardFlow.advance r (s.on f) (.secondary card primary (some p) offers) event

theorem chooseEffect_of_again (again : p.applyTo (p.applyTo f) = p.applyTo f) (card : Card)
    (target : Target) :
    CardFlow.chooseEffect (s.on (p.applyTo f)) card (some p) target =
      CardFlow.chooseEffect (s.on f) card (some p) target := by
  have same : (s.on (p.applyTo f)).afterPaying (some p) = (s.on f).afterPaying (some p) := by
    simp only [Situation.afterPaying, Situation.on, again]
  simp only [CardFlow.chooseEffect, same]

/-- A cost may be paid before the flow is through with it. -/
theorem settles_of_distinct
    (distinct : ∀ b, f.board? p.target.owner = some b →
      (b.drones.toList.map fun e => e.2.id).Nodup) : p.Settles f := by
  have again := applyTo_applyTo_self distinct
  refine ⟨again, ?_, ?_, ?_, ?_⟩
  · intro q before lane drone same first second
    exact sameDrones_of_moved distinct drone same first second
  · intro r s
    simp only [Referee.targetsAfter, Situation.afterPaying, Situation.on, again]
  · intro r s card offers event
    have chosen (target : Target) := chooseEffect_of_again
      (s := s.playedAs (.card card)) again card target
    cases event with
    | cancel => rfl
    | confirm => rfl
    | select picked =>
        simp only [CardFlow.advance, CardPhase.offers]
        cases pick? offers picked with
        | none => rfl
        | some target => exact congrArg Except.ok (chosen target)
  · intro r s card primary offers event
    -- The second target completes the flow without a look at the boards.
    cases event with
    | cancel => rfl
    | confirm => rfl
    | select picked => rfl

/-- The scout withdraws to the second lane, and the boards change when it first does. -/
theorem withdrawal_settles :
    let p : Payment := { target := scoutTarget, destinationLane := some "lane2" }
    p.applyTo patrol.field ≠ patrol.field ∧ p.Settles patrol.field := by
  refine ⟨by decide, settles_of_distinct ?_⟩
  rintro b ⟨⟩
  decide

end Payment

end DroneTactics
