import DroneTactics.Proofs.Selection.MoveStep
import DroneTactics.Proofs.Selection.Record
import DroneTactics.Proofs.Targeting.Unambiguous

/-!
No phase leaves a pick open. What a flow offers is the answer to a question about targets, the
neighbours of a lane, or drones of one lane, so on boards on which a name means one thing no
two of its offers have the same key. This holds along every run, whatever such boards its turns
bring.
-/

namespace DroneTactics

/-! ### Cards -/

namespace CardFlow

variable {r : Referee} {s s' : Situation} {card : Card} {payment : Option Payment}
  {phase next first : CardPhase} {target : Target} {turns : List Turn}

theorem unambiguous_of_enters (labelled : s.field.Labelled)
    (enters : Enters r s card payment next) : Unambiguous next.offers := by
  cases enters with
  | untargeted => exact unambiguous_nil
  | fizzled => exact unambiguous_nil
  | offered _ found => exact Referee.unambiguous_targetsAfter labelled found

theorem unambiguous_of_begins (labelled : s.field.Labelled) (begins : Begins r s card next) :
    Unambiguous next.offers := by
  have played : (s.playedAs (.card card)).field.Labelled := labelled
  cases begins with
  | unpayable => exact unambiguous_nil
  | pointless => exact unambiguous_nil
  | cost _ found => exact Referee.unambiguous_costTargets played found
  | free _ enters => exact unambiguous_of_enters played enters

theorem unambiguous_of_chooses (labelled : s.field.Labelled)
    (chooses : Chooses r s phase target next) : Unambiguous next.offers := by
  have played : ∀ card : Card, (s.playedAs (.card card)).field.Labelled := fun _ => labelled
  cases chooses with
  | costGone => exact unambiguous_nil
  | primaryGone => exact unambiguous_nil
  | only => exact unambiguous_nil
  | primaryAlone => exact unambiguous_nil
  | second => exact unambiguous_nil
  | costMoves => exact unambiguous_map_ofLane (nodup_neighbours labelled.lanes _) _
  | costPaid _ _ enters => exact unambiguous_of_enters (played _) enters
  | destination enters => exact unambiguous_of_enters (played _) enters
  | @primary card payment _ _ _ _ _ _ _ found =>
      have paid : (s.whenPaid card payment).field.Labelled :=
        Situation.labelled_afterPaying (played card) payment
      subst found
      exact Situation.unambiguous_secondaryTargets paid _ _

theorem unambiguous_of_run (begins : begin r s card = .ok first)
    (labelled : ∀ f ∈ Transition.fields s turns, f.Labelled)
    (run : (advance r).Run s first turns s' phase) : Unambiguous phase.offers := by
  have initial : Unambiguous first.offers :=
    unambiguous_of_begins (labelled _ List.mem_cons_self) (begin_eq_ok_iff.1 begins)
  refine invariant_of_chooses (P := fun phase => Unambiguous phase.offers) unambiguous_nil ?_
    labelled run initial
  intro f phase target next labelled _ _ chooses
  exact unambiguous_of_chooses (s := { s with field := f }) labelled chooses

end CardFlow

/-! ### Moves -/

namespace MoveFlow

variable {rules : Rules} {s s' : Situation} {phase next first : MovePhase} {target : Target}
  {kind : Kind} {turns : List Turn}

theorem unambiguous_of_begin (labelled : s.field.Labelled)
    (begins : begin rules s kind = .ok next) : Unambiguous next.offers := by
  cases kind with
  | single =>
      obtain ⟨-, -, begins⟩ := bind_eq_ok_iff.1 begins
      obtain rfl := pure_eq_ok_iff.1 begins
      exact Situation.unambiguous_gathered labelled labelled.lanes _
        fun lane d owner => s.canMove rules d lane owner &&
          s.dronePasses d lane owner s.definition.targeting.demands none
  | group =>
      obtain rfl := pure_eq_ok_iff.1 begins
      refine unambiguous_map_ofLane ?_ s.acting
      split
      case h_1 => exact labelled.lanes.filter _
      case h_2 => exact List.nodup_nil

theorem unambiguous_toDestination (labelled : s.field.Labelled) (lane : LaneId)
    (selected : List Target) : Unambiguous (toDestination s lane selected).offers :=
  unambiguous_map_ofLane (nodup_neighbours labelled.lanes _) _

theorem unambiguous_of_chooses (labelled : s.field.Labelled) (before : Unambiguous phase.offers)
    (chooses : Chooses rules s phase target next) : Unambiguous next.offers := by
  cases chooses with
  | droneGone => exact unambiguous_nil
  | destination => exact unambiguous_nil
  | destinationLane => exact unambiguous_nil
  | drone => exact unambiguous_map_ofLane (nodup_neighbours labelled.lanes _) _
  | sourceLane owned =>
      have board := labelled.boards _ (Battlefield.mem_boards_of_board? owned).1
      exact unambiguous_map_filter (board.nodup_dronesIn _) fun _ => rfl
  | last => exact unambiguous_toDestination labelled _ _
  | dropped => exact before
  | full => exact before
  | added => exact before

theorem unambiguous_of_advance {event : Event} (labelled : s.field.Labelled)
    (before : Unambiguous phase.offers) (head : advance rules s phase event = .ok next) :
    Unambiguous next.offers := by
  rcases advance_cases head with rfl | rfl | ⟨lane, count, selected, offers, rfl, -, rfl⟩ |
    ⟨target, -, chooses⟩
  · exact unambiguous_nil
  · exact before
  · exact unambiguous_toDestination labelled lane selected
  · exact unambiguous_of_chooses labelled before chooses

theorem unambiguous_of_run (begins : begin rules s kind = .ok first)
    (labelled : ∀ f ∈ Transition.fields s turns, f.Labelled)
    (run : (advance rules).Run s first turns s' phase) : Unambiguous phase.offers := by
  have initial : Unambiguous first.offers :=
    unambiguous_of_begin (labelled _ List.mem_cons_self) begins
  refine run.invariant_on (P := fun phase => Unambiguous phase.offers) ?_ labelled initial
  intro f phase event next labelled before head
  exact unambiguous_of_advance (s := { s with field := f }) labelled before head

end MoveFlow

/-! ### Every offer -/

/-- On boards on which a name means one thing no key is offered twice: neither by an answer
about targets nor in a phase that a flow reaches on such boards. -/
theorem unambiguous_of_labelled (r : Referee) (rules : Rules) (s : Situation)
    (labelled : s.field.Labelled) :
    (∀ offers, r.targets s = .ok offers → Unambiguous offers) ∧
    (∀ offers, r.costTargets s = .ok offers → Unambiguous offers) ∧
    (∀ payment offers, r.targetsAfter s payment = .ok offers → Unambiguous offers) ∧
    (∀ primary rule, Unambiguous (s.secondaryTargets primary rule)) ∧
    (∀ card first turns s' phase, CardFlow.begin r s card = .ok first →
      (∀ f ∈ Transition.fields s turns, f.Labelled) →
      (CardFlow.advance r).Run s first turns s' phase → Unambiguous phase.offers) ∧
    (∀ kind first turns s' phase, MoveFlow.begin rules s kind = .ok first →
      (∀ f ∈ Transition.fields s turns, f.Labelled) →
      (MoveFlow.advance rules).Run s first turns s' phase → Unambiguous phase.offers) := by
  refine ⟨?_, ?_, ?_, ?_, ?_, ?_⟩
  · intro offers found
    exact Referee.unambiguous_targets labelled found
  · intro offers found
    exact Referee.unambiguous_costTargets labelled found
  · intro payment offers found
    exact Referee.unambiguous_targetsAfter labelled found
  · intro primary rule
    exact Situation.unambiguous_secondaryTargets labelled primary rule
  · intro card first turns s' phase begins boards run
    exact CardFlow.unambiguous_of_run begins boards run
  · intro kind first turns s' phase begins boards run
    exact MoveFlow.unambiguous_of_run begins boards run

/-- The drones of a skirmish that the withdrawal can hit are told apart, though both players'
are among them. -/
theorem skirmish_is_unambiguous :
    (skirmish (.card withdrawal)).field.Labelled ∧
    (skirmish (.card withdrawal)).targets = .ok [.ofDrone scout "player1" "lane1",
      .ofDrone wreck "player1" "lane2", .ofDrone raider "player2" "lane2",
      .ofDrone bomber "player2" "lane2"] ∧
    Unambiguous [.ofDrone scout "player1" "lane1", .ofDrone wreck "player1" "lane2",
      .ofDrone raider "player2" "lane2", .ofDrone bomber "player2" "lane2"] := by
  have labelled : (skirmish (.card withdrawal)).field.Labelled := by decide
  have found : (skirmish (.card withdrawal)).targets = .ok [.ofDrone scout "player1" "lane1",
      .ofDrone wreck "player1" "lane2", .ofDrone raider "player2" "lane2",
      .ofDrone bomber "player2" "lane2"] := rfl
  exact ⟨labelled, found, (unambiguous_of_labelled {} {} _ labelled).1 _ found⟩

end DroneTactics
