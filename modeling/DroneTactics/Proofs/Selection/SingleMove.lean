import DroneTactics.Proofs.Selection.CardStep
import DroneTactics.Proofs.Selection.MoveStep
import DroneTactics.Proofs.Targeting.Scope
import DroneTactics.Proofs.Targeting.Standing

/-!
A single move, by itself and as the cost of a card. Both look for drones that are able to move
and meet the demands of a rule. A single move asks every drone whether it is able to move and
tests the demands as it goes; a cost gathers the targets of the rule first and leaves out those
that are not able to move. The drones are the same, in the same order, and the drone that is
picked may be moved to the same lanes.
-/

namespace DroneTactics

/-- A card is paid for by the single move of a definition: both have one rule, for drones, which
says whose they are and reaches every lane. -/
structure Card.PaidBy (card : Card) (d : Definition) : Prop where
  cost : ∃ properties, card.extraCost = some ⟨"SINGLE_MOVE", d.targeting, properties⟩
  drone : d.targeting.type = "DRONE"
  affinity : d.targeting.affinity.isSome
  everywhere : Situation.Everywhere d.targeting.location

/-! ### The drones that are offered -/

/-- If some drones have been asked, so have fewer of them. -/
theorem Rules.askToMove_of_subset {rules : Rules} {drones fewer : List Drone}
    (asked : rules.askToMove drones = .ok ()) (subset : fewer ⊆ drones) :
    rules.askToMove fewer = .ok () := by
  rw [askToMove_eq_ok_iff] at asked ⊢
  rintro ⟨unknown, d, mem, ready⟩
  exact asked ⟨unknown, d, subset mem, ready⟩

namespace Situation

variable {s : Situation} {rule : Targeting}

theorem scope_of_everywhere {location : Option String} (all : Everywhere location) :
    s.scope location = s.field.lanes := by
  rcases all with rfl | rfl | rfl <;> rfl

def dronesWithin (s : Situation) (rule : Targeting) : List Drone :=
  (s.boards rule.affinityWord).flatMap fun (_, board) =>
    (board.dronesAlong (s.scope rule.location)).map Prod.snd

theorem drones_of_droneTargets_subset :
    (s.droneTargets rule).filterMap Target.drone? ⊆ s.dronesWithin rule := by
  intro d mem
  obtain ⟨t, offered, same⟩ := List.mem_filterMap.1 mem
  obtain ⟨⟨owner, board⟩, owned, inside⟩ := List.mem_flatMap.1 offered
  obtain ⟨⟨lane, d'⟩, along, passes⟩ := List.mem_filterMap.1 inside
  obtain ⟨-, made⟩ := Option.ite_none_right_eq_some.1 passes
  obtain rfl := Option.some.inj made
  obtain rfl : d' = d := Option.some.inj same
  exact List.mem_flatMap.2 ⟨(owner, board), owned, List.mem_map_of_mem along⟩

/-- Leaving out drones that are not able to move is the same at the end as on the way. -/
theorem filter_droneTargets (r : Referee) :
    (s.droneTargets rule).filter (r.canPayByMoving s) =
      (s.boards rule.affinityWord).flatMap fun (owner, board) =>
        (board.dronesAlong (s.scope rule.location)).filterMap fun (lane, d) =>
          if s.canMove r.rules d lane owner && s.dronePasses d lane owner rule.demands none then
            some (.ofDrone d owner lane)
          else none := by
  rw [droneTargets, List.filter_flatMap]
  congr 1
  funext ⟨owner, board⟩
  rw [List.filter_filterMap]
  congr 1
  funext ⟨lane, d⟩
  have pays : r.canPayByMoving s (.ofDrone d owner lane) = s.canMove r.rules d lane owner := rfl
  cases passes : s.dronePasses d lane owner rule.demands none with
  | false => simp only [passes, Bool.and_false, Bool.false_eq_true, if_false, Option.filter_none]
  | true => simp only [passes, Bool.and_true, if_true, Option.filter_some, pays]

end Situation

variable {rules : Rules} {s : Situation} {d : Definition} {card : Card} {offers : List Target}

/-- A single move offers those targets of the rule that are able to move, once every drone that
the rule could reach has been asked. -/
theorem MoveFlow.beginSingle_eq (pays : card.PaidBy d) :
    MoveFlow.beginSingle rules (s.playedAs d) =
      rules.askToMove (s.dronesWithin d.targeting) >>= fun _ =>
        pure (.drone ((s.droneTargets d.targeting).filter
          (Referee.canPayByMoving { rules } s))) := by
  obtain ⟨word, named⟩ := Option.isSome_iff_exists.1 pays.affinity
  have affinity : d.targeting.affinity.getD Affinity.friendly.name = d.targeting.affinityWord := by
    rw [Targeting.affinityWord, named, Option.getD_some, Option.getD_some]
  rw [Situation.filter_droneTargets, Situation.dronesWithin,
    Situation.scope_of_everywhere pays.everywhere, ← affinity]
  rfl

/-- The cost is paid by the same drones, but only those that the rule offers are asked. -/
theorem Referee.costTargets_eq (pays : card.PaidBy d) :
    Referee.costTargets { rules } (s.playedAs (.card card)) =
      rules.askToMove ((s.droneTargets d.targeting).filterMap Target.drone?) >>= fun _ =>
        pure ((s.droneTargets d.targeting).filter (Referee.canPayByMoving { rules } s)) := by
  obtain ⟨properties, cost⟩ := pays.cost
  have aims : d.targeting.aim? = some .drone := by
    rw [Targeting.aim?, pays.drone]
    rfl
  have played : (s.playedAs (.card card)).definition.extraCost = card.extraCost := rfl
  simp only [costTargets, played, cost, ruleTargets, aims]
  rfl

/-- If the drones of a single move are known, they are what pays for the card. -/
theorem Referee.costTargets_of_single (pays : card.PaidBy d)
    (begins : MoveFlow.beginSingle rules (s.playedAs d) = .ok (.drone offers)) :
    Referee.costTargets { rules } (s.playedAs (.card card)) = .ok offers ∧
      ∀ t ∈ offers, t.kind = .drone := by
  rw [MoveFlow.beginSingle_eq pays] at begins
  obtain ⟨⟨⟩, asked, same⟩ := bind_eq_ok_iff.1 begins
  obtain rfl := MovePhase.drone.inj (pure_eq_ok_iff.1 same)
  rw [costTargets_eq pays]
  refine ⟨bind_eq_ok_iff.2 ⟨(), ?_, rfl⟩, fun t mem => ?_⟩
  · exact Rules.askToMove_of_subset asked Situation.drones_of_droneTargets_subset
  · obtain ⟨_, _, _, rfl⟩ := Situation.offers_of_mem_droneTargets (List.mem_filter.1 mem).1
    rfl

/-! ### The drone that is picked -/

/-- The phases of a single move and of a card that is paid for by one agree: both offer the same
drones, both have ended, or both offer the same lanes for the same drone. A single move offers
the side of the drone's owner there, a cost that of the acting player. -/
inductive Alongside (card : Card) : MovePhase → CardPhase → Prop
  | choosing (offers : List Target) : Alongside card (.drone offers) (.cost card offers)
  | ended : Alongside card .idle .idle
  | leaving (target : Target) (lane : LaneId) (goals : List LaneId) (owner acting : PlayerId) :
      Alongside card (.destination target lane (goals.map (.ofLane · owner)))
        (.costDestination card { target, sourceLane := some lane }
          (goals.map (.ofLane · acting)))

section Picking

variable {r : Referee} {picked target : Target} {st : Station}

theorem Card.PaidBy.moves (pays : card.PaidBy d) :
    card.extraCost.any ExtraCost.isMovement = true := by
  obtain ⟨properties, cost⟩ := pays.cost
  rw [cost]
  rfl

/-- A drone that is there when it is picked is to leave its lane in both flows. -/
theorem leaving_of_pick (now : Situation) (pays : card.PaidBy d)
    (found : pick? offers picked = some target)
    (drone : target.kind = .drone) (there : now.field.station? target.id = some st) :
    MoveFlow.advance rules now (.drone offers) (.select picked) =
        .ok (.destination target st.lane
          ((now.field.neighbours (some st.lane)).map (.ofLane · st.owner))) ∧
      CardFlow.advance r now (.cost card offers) (.select picked) =
        .ok (.costDestination card { target, sourceLane := some st.lane }
          ((now.field.neighbours (some st.lane)).map (.ofLane · now.acting))) := by
  have located : now.field.Locates target none (some st.lane) := by
    rw [Battlefield.Locates, if_pos drone]
    exact ⟨st, there, rfl⟩
  have leaves : MoveFlow.Chooses rules now (.drone offers) target _ := .drone there
  have pays : CardFlow.Chooses r now (.cost card offers) target _ := .costMoves located pays.moves
  exact ⟨leaves.advance_select found, pays.advance_select found⟩

/-- Whatever happens while drones are offered, and on whatever boards, the flows agree. -/
theorem alongside_of_event (pays : card.PaidBy d) (drones : ∀ t ∈ offers, t.kind = .drone)
    (now : Situation) (event : Event) : ∃ move pay,
      MoveFlow.advance rules now (.drone offers) event = .ok move ∧
      CardFlow.advance r now (.cost card offers) event = .ok pay ∧ Alongside card move pay := by
  cases event with
  | cancel => exact ⟨_, _, rfl, rfl, .ended⟩
  | confirm => exact ⟨_, _, rfl, rfl, .choosing offers⟩
  | select picked =>
      cases found : pick? offers picked with
      | none =>
          exact ⟨_, _, MoveFlow.advance_select_of_none found,
            CardFlow.advance_select_of_none found, .choosing offers⟩
      | some target =>
          have first := firstOf_of_pick? found
          have drone := drones target first.mem
          cases there : now.field.station? target.id with
          | some st =>
              obtain ⟨move, pay⟩ := leaving_of_pick now pays found drone there
              exact ⟨_, _, move, pay, .leaving _ _ _ _ _⟩
          | none =>
              have leaves : MoveFlow.Chooses rules now (.drone offers) target .idle :=
                .droneGone there
              have pays : CardFlow.Chooses r now (.cost card offers) target .idle :=
                .costGone drone there
              exact ⟨_, _, leaves.advance_select found, pays.advance_select found, .ended⟩

end Picking

/-- A single move and a cost of one are the same choice. If the inert keyword can be looked for
the drones of the move are known; whenever they are, the same drones pay for the card, each of
them is to leave the same lane for the same lanes, and on other boards the flows agree as well. -/
theorem single_move_as_cost (rules : Rules) (s : Situation) (d : Definition) (card : Card)
    (pays : card.PaidBy d) :
    (rules.hasInertKeyword = true →
      ∃ offers, MoveFlow.begin rules (s.playedAs d) .single = .ok (.drone offers)) ∧
    ∀ offers, MoveFlow.begin rules (s.playedAs d) .single = .ok (.drone offers) →
      Referee.costTargets { rules } (s.playedAs (.card card)) = .ok offers ∧
      (∀ picked target, pick? offers picked = some target → ∃ lane owner,
        MoveFlow.advance rules (s.playedAs d) (.drone offers) (.select picked) =
          .ok (.destination target lane
            ((s.field.neighbours (some lane)).map (.ofLane · owner))) ∧
        CardFlow.advance { rules } (s.playedAs d) (.cost card offers) (.select picked) =
          .ok (.costDestination card { target, sourceLane := some lane }
            ((s.field.neighbours (some lane)).map (.ofLane · s.acting)))) ∧
      ∀ turn : Turn, ∃ move pay,
        MoveFlow.advance rules ((s.playedAs d).atTurn turn) (.drone offers) turn.event =
          .ok move ∧
        CardFlow.advance { rules } ((s.playedAs d).atTurn turn) (.cost card offers) turn.event =
          .ok pay ∧
        Alongside card move pay := by
  constructor
  · intro known
    have asked : rules.askToMove (s.dronesWithin d.targeting) = .ok () :=
      Rules.askToMove_eq_ok_iff.2 fun ⟨unknown, _⟩ => by simp [known] at unknown
    exact ⟨_, (MoveFlow.beginSingle_eq pays).trans (bind_eq_ok_iff.2 ⟨(), asked, rfl⟩)⟩
  · intro offers begins
    obtain ⟨paid, drones⟩ := Referee.costTargets_of_single pays begins
    refine ⟨paid, fun picked target found => ?_, fun turn => ?_⟩
    · have mem := (firstOf_of_pick? found).mem
      have drone := drones target mem
      obtain ⟨st, stands, rfl⟩ := Referee.shownInLane_of_mem_costTargets paid mem drone
      have held : s.field.Holds st.drone.id := ⟨st, stands, rfl⟩
      cases there : s.field.station? st.drone.id with
      | none => exact absurd held (Battlefield.station?_eq_none_iff.1 there)
      | some st' =>
          exact ⟨st'.lane, st'.owner,
            leaving_of_pick (s.playedAs d) pays found drone there⟩
    · exact alongside_of_event pays drones _ turn.event

/-! ### The withdrawal of the scout -/

def reposition : Definition :=
  .ability { name := "Reposition", targeting := { type := "DRONE", affinity := some "FRIENDLY" } }

/-- The scout pays for the withdrawal by the move it can make by itself. -/
theorem withdrawal_repositions :
    withdrawal.PaidBy reposition ∧ ({} : Rules).hasInertKeyword = true ∧
      MoveFlow.begin {} (patrol.playedAs reposition) .single = .ok (.drone [scoutTarget]) ∧
      Referee.costTargets {} (patrol.playedAs (.card withdrawal)) = .ok [scoutTarget] ∧
      pick? [scoutTarget] scoutTarget = some scoutTarget ∧
      ∃ lane owner,
        MoveFlow.advance {} (patrol.playedAs reposition) (.drone [scoutTarget])
            (.select scoutTarget) =
          .ok (.destination scoutTarget lane
            ((patrol.field.neighbours (some lane)).map (.ofLane · owner))) ∧
        CardFlow.advance {} (patrol.playedAs reposition) (.cost withdrawal [scoutTarget])
            (.select scoutTarget) =
          .ok (.costDestination withdrawal { target := scoutTarget, sourceLane := some lane }
            ((patrol.field.neighbours (some lane)).map (.ofLane · "player1"))) := by
  have pays : withdrawal.PaidBy reposition := ⟨⟨[], rfl⟩, rfl, rfl, .inl rfl⟩
  have begins : MoveFlow.begin {} (patrol.playedAs reposition) .single =
      .ok (.drone [scoutTarget]) := rfl
  obtain ⟨-, alike⟩ := single_move_as_cost {} patrol reposition withdrawal pays
  obtain ⟨paid, picks, -⟩ := alike _ begins
  exact ⟨pays, rfl, begins, paid, rfl, picks scoutTarget scoutTarget rfl⟩

end DroneTactics
