import DroneTactics.Proofs.Selection.GroupMove
import DroneTactics.Proofs.Selection.LegalPlay

/-!
What is moved is able to move, and goes no further than the next lane. This holds for the
drone that a card is paid with, for the drone of a single move and for those of a group,
whatever has been picked and called off before.
-/

namespace DroneTactics

/-- A move of a drone that is able to move to a lane beside the one it starts from. -/
structure Situation.SafeMove (s : Situation) (rules : Rules) (drone : Target)
    (source : Option LaneId) (goal : LaneId) : Prop where
  able : s.Movable rules drone
  beside : goal ∈ s.field.neighbours source

variable {s : Situation} {drone target : Target} {source goal : LaneId} {drones : List Target}

/-! ### Costs -/

namespace CardFlow

variable {r : Referee} {card : Card} {payment : Payment} {phase : CardPhase}

/-- Only a drone has a lane beside it, so a cost that moved something moved a drone. -/
theorem Pays.safe (pays : Pays r s card (some payment))
    (moved : payment.destinationLane = some goal) :
    s.SafeMove r.rules payment.target payment.sourceLane goal := by
  obtain ⟨cost, costs, ⟨⟨offers, found, first⟩, located⟩, moves⟩ := pays
  split at moves
  case isFalse =>
      rw [moves] at moved
      cases moved
  case isTrue movement =>
      obtain ⟨lane, beside, there⟩ := moves
      obtain rfl : lane = goal := by
        rw [there, Option.some.injEq] at moved
        exact moved
      have isDrone : payment.target.kind = .drone := by
        -- Anything else is in no lane, and nothing is beside no lane.
        apply Classical.byContradiction
        intro other
        rw [Battlefield.Locates, if_neg other] at located
        rw [located] at beside
        exact List.not_mem_nil beside
      have costs : (s.playedAs (.card card)).definition.extraCost = some cost := costs
      have able : (s.playedAs (.card card)).Movable r.rules payment.target :=
        Referee.movable_of_mem_costTargets costs movement found first.mem isDrone
      exact ⟨Situation.movable_playedAs_iff.1 able, beside⟩

theorem LegalPlay.pays {payment : Option Payment} {second : Option Target} {skipped : Bool}
    {target : Option Target} (play : LegalPlay r s card payment target second skipped) :
    Pays r s card payment := by
  cases play with
  | untargeted pays => exact pays
  | fizzled aims => exact aims.pays
  | only aims => exact aims.pays
  | alone aims => exact aims.pays
  | double aims => exact aims.pays

/-- What a phase remembers as paid pays for the card, unless its new lane is still to be
picked. -/
theorem Legal.pays_or_waits (legal : Legal r s card phase)
    (paid : phase.payment? = some payment) : Pays r s card (some payment) ∨
      ∃ c offers, phase = .costDestination c payment offers := by
  cases phase with
  | idle => cases paid
  | cost => cases paid
  | costDestination =>
      cases paid
      exact .inr ⟨_, _, rfl⟩
  | effect =>
      cases paid
      exact .inl legal.2.1.pays
  | secondary =>
      cases paid
      obtain ⟨-, ⟨firsts, aims, -⟩, -⟩ := legal
      exact .inl aims.pays
  | complete =>
      cases paid
      exact .inl legal.2.pays

theorem Legal.pays (legal : Legal r s card phase) (paid : phase.payment? = some payment)
    (moved : payment.destinationLane = some goal) : Pays r s card (some payment) := by
  rcases legal.pays_or_waits paid with pays | ⟨c, offers, rfl⟩
  · exact pays
  · obtain ⟨-, -, -, unmoved, -⟩ := legal
    rw [unmoved] at moved
    cases moved

theorem Reached.safe {events : List Event} (reached : Reached r s card events phase)
    (paid : phase.payment? = some payment) (moved : payment.destinationLane = some goal) :
    s.SafeMove r.rules payment.target payment.sourceLane goal :=
  (reached.legal.pays paid moved).safe moved

end CardFlow

/-! ### Single moves -/

namespace MoveFlow

variable {rules : Rules} {phase next : MovePhase}

theorem movable_of_beginSingle (begins : beginSingle rules s = .ok phase) :
    ∃ offers, phase = .drone offers ∧ ∀ t ∈ offers, s.Movable rules t := by
  obtain ⟨⟨⟩, asked, begins⟩ := bind_eq_ok_iff.1 begins
  refine ⟨_, (pure_eq_ok_iff.1 begins).symm, ?_⟩
  intro t mem
  obtain ⟨⟨owner, board⟩, shown, mem⟩ := List.mem_flatMap.1 mem
  obtain ⟨⟨lane, d⟩, inside, mem⟩ := List.mem_filterMap.1 mem
  obtain ⟨passes, same⟩ := Option.ite_none_right_eq_some.1 mem
  obtain rfl := Option.some.inj same
  refine ⟨d, lane, rfl, Situation.mobile_of_canMove asked ?_ (Bool.and_eq_true_iff.1 passes).1⟩
  exact List.mem_flatMap.2 ⟨(owner, board), shown, List.mem_map.2 ⟨(lane, d), inside, rfl⟩⟩

def Singling (rules : Rules) (s : Situation) : MovePhase → Prop
  | .idle => True
  | .drone offers => ∀ t ∈ offers, s.Movable rules t
  | .destination drone source offers => s.Movable rules drone ∧
      ∃ owner, offers = (s.field.neighbours (some source)).map (.ofLane · owner)
  | .complete drones source goal => ∃ drone, drones = [drone] ∧
      s.SafeMove rules drone (some source) goal
  | .sourceLane _ _ => False
  | .drones _ _ _ _ => False
  | .destinationLane _ _ _ => False

theorem singling_of_chooses (singling : Singling rules s phase)
    (first : FirstOf phase.offers target) (chooses : Chooses rules s phase target next) :
    Singling rules s next := by
  cases chooses with
  | droneGone => trivial
  | drone => exact ⟨singling target first.mem, _, rfl⟩
  | destination =>
      obtain ⟨able, owner, rfl⟩ := singling
      obtain ⟨goal, beside, rfl⟩ := firstOf_map_ofLane_iff.1 first
      exact ⟨_, rfl, able, beside⟩
  | sourceLane => exact singling.elim
  | dropped => exact singling.elim
  | full => exact singling.elim
  | last => exact singling.elim
  | added => exact singling.elim
  | destinationLane => exact singling.elim

/-- One event keeps the description. -/
theorem singling_of_advance {event : Event} (singling : Singling rules s phase)
    (h : advance rules s phase event = .ok next) : Singling rules s next := by
  rcases advance_cases h with rfl | rfl | ⟨lane, count, selected, offers, rfl, -, -⟩ |
    ⟨target, first, chooses⟩
  · trivial
  · exact singling
  · exact singling.elim
  · exact singling_of_chooses singling first chooses

theorem singling_of_leads {events : List Event} {first : MovePhase}
    (begins : beginSingle rules s = .ok first)
    (run : (advance rules).Leads s first events phase) : Singling rules s phase := by
  obtain ⟨offers, rfl, able⟩ := movable_of_beginSingle begins
  exact run.invariant singling_of_advance able

/-! ### Groups -/

theorem movable_of_mem_movers {board : Board} {lane : LaneId}
    (mem : target ∈ movers rules s board lane) : s.Movable rules target := by
  obtain ⟨d, inside, rfl⟩ := List.mem_map.1 mem
  have mobile : s.Mobile rules d lane s.acting := by
    simpa using (List.mem_filter.1 inside).2
  exact ⟨d, lane, rfl, mobile⟩

/-- Every drone of a group is able to move, and the group goes to the next lane. -/
theorem GroupMove.safe (move : GroupMove rules s drones source goal) (mem : drone ∈ drones) :
    s.SafeMove rules drone (some source) goal := by
  obtain ⟨⟨-, board, -, group⟩, beside⟩ := move
  exact ⟨movable_of_mem_movers (group.offered drone mem).mem, beside⟩

end MoveFlow

/-! ### Both flows -/

/-- No flow moves a drone that is not able to move, and none moves one past a lane. -/
theorem safeMove_of_flows (r : Referee) (s : Situation) :
    (∀ card events phase payment goal, CardFlow.Reached r s card events phase →
      phase.payment? = some payment → payment.destinationLane = some goal →
      s.SafeMove r.rules payment.target payment.sourceLane goal) ∧
    (∀ first events drones source goal, MoveFlow.beginSingle r.rules s = .ok first →
      (MoveFlow.advance r.rules).Leads s first events (.complete drones source goal) →
      ∃ drone, drones = [drone] ∧ s.SafeMove r.rules drone (some source) goal) := by
  constructor
  · intro card events phase payment goal reached paid moved
    exact reached.safe paid moved
  · intro first events drones source goal begins run
    exact MoveFlow.singling_of_leads begins run

/-- The scout is moved to the second lane, by a card that it pays for and by itself. -/
theorem scout_moves_safely :
    (∃ phase payment, CardFlow.Reached {} patrol withdrawal
        [.select scoutTarget, .select (.ofLane "lane2" "player1")] phase ∧
      phase.payment? = some payment ∧ payment.destinationLane = some "lane2" ∧
      patrol.SafeMove {} payment.target payment.sourceLane "lane2") ∧
    (∃ first, MoveFlow.beginSingle {} patrol = .ok first ∧
      (MoveFlow.advance {}).Leads patrol first
        [.select scoutTarget, .select (.ofLane "lane2" "player1")]
        (.complete [scoutTarget] "lane1" "lane2") ∧
      ∃ drone, [scoutTarget] = [drone] ∧ patrol.SafeMove {} drone (some "lane1") "lane2") := by
  have reached : CardFlow.Reached {} patrol withdrawal
      [.select scoutTarget, .select (.ofLane "lane2" "player1")]
      (.effect withdrawal
        (some { target := scoutTarget, sourceLane := "lane1", destinationLane := "lane2" })
        [.ofDrone scout "player1" "lane2"]) :=
    ⟨_, rfl, .cons rfl (.cons rfl (.nil _ _))⟩
  have leads : (MoveFlow.advance {}).Leads patrol (.drone [scoutTarget])
      [.select scoutTarget, .select (.ofLane "lane2" "player1")]
      (.complete [scoutTarget] "lane1" "lane2") :=
    .cons rfl (.cons rfl (Transition.leads_nil_iff.2 rfl))
  obtain ⟨costs, singles⟩ := safeMove_of_flows {} patrol
  refine ⟨⟨_, _, reached, rfl, rfl, costs _ _ _ _ _ reached rfl rfl⟩, ?_⟩
  exact ⟨_, rfl, leads, singles _ _ _ _ _ rfl leads⟩

end DroneTactics
