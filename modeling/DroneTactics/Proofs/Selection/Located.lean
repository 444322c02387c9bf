import DroneTactics.Proofs.Selection.Presence
import DroneTactics.Proofs.Selection.SafeMove
import DroneTactics.Proofs.Targeting.Namesake

/-!
Where the flows take a chosen drone to stand. What pays is looked up on the boards that the
flow is given, a first target on those that the cost leaves. Both are shown where their owner
has them, and the look-up agrees unless a drone of the same id on the first board hides them.
A drone that is moved by itself leaves from where it was found, over the lanes of the player
whose drone was found.
-/

namespace DroneTactics

/-! ### Cards -/

namespace CardFlow

variable {r : Referee} {s : Situation} {card : Card} {phase : CardPhase} {payment : Payment}
  {events : List Event}

/-- What a phase remembers as paid was offered as a cost and located then. -/
theorem Legal.paysWith (legal : Legal r s card phase) (paid : phase.payment? = some payment) :
    PaysWith r s card payment.target payment.sourceLane := by
  rcases legal.pays_or_waits paid with ⟨cost, -, pays, -⟩ | ⟨c, offers, rfl⟩
  · exact pays
  · obtain ⟨-, -, pays, -⟩ := legal
    exact pays

theorem finds_payer (sound : s.field.Sound) (reached : Reached r s card events phase)
    (paid : phase.payment? = some payment) (drone : payment.target.kind = .drone) :
    s.field.Finds payment.target payment.sourceLane := by
  obtain ⟨⟨offers, found, first⟩, located⟩ := reached.legal.paysWith paid
  have shown : (s.playedAs (.card card)).field.ShowsInLane payment.target :=
    Referee.shownInLane_of_mem_costTargets found first.mem drone
  exact Battlefield.finds_of_locates sound shown located

theorem field_whenPaid (s : Situation) (card : Card) (payment : Option Payment) :
    (s.whenPaid card payment).field = (s.afterPaying payment).field := by
  cases payment <;> rfl

theorem finds_primary {c : Card} {primary : PrimaryChoice} {payment : Option Payment}
    {offers : List Target} (sound : s.field.Sound)
    (reached : Reached r s card events (.secondary c primary payment offers))
    (drone : primary.target.kind = .drone) :
    (s.afterPaying payment).field.Finds primary.target primary.lane := by
  obtain ⟨rfl, ⟨firsts, aims, first⟩, follows, -⟩ := reached.legal
  have shown := Referee.shownInLane_of_mem_targets aims.found first.mem drone
  have located := follows.located
  rw [field_whenPaid] at located
  rw [← Situation.whenPaid, field_whenPaid] at shown
  exact Battlefield.finds_of_locates (Situation.sound_afterPaying sound) shown located

end CardFlow

/-! ### Single moves -/

namespace MoveFlow

variable {rules : Rules} {s : Situation} {phase next : MovePhase} {target : Target}

/-- Single drones are offered where they stand, and a picked one leaves from where one of its
id was found. -/
def Departing (s : Situation) : MovePhase → Prop
  | .drone offers => ∀ t ∈ offers, s.field.ShowsInLane t
  | .destination drone lane offers => s.field.ShowsInLane drone ∧
      ∃ st, s.field.station? drone.id = some st ∧ st.lane = lane ∧
        offers = (s.field.neighbours (some lane)).map (.ofLane · st.owner)
  | _ => True

theorem departing_of_begin {kind : Kind} (begins : begin rules s kind = .ok phase) :
    Departing s phase := by
  cases kind with
  | single =>
      obtain ⟨offers, rfl, -⟩ := movable_of_beginSingle begins
      intro t mem
      exact shownInLane_of_beginSingle begins mem
  | group =>
      obtain rfl := pure_eq_ok_iff.1 begins
      trivial

theorem departing_of_chooses (departing : Departing s phase)
    (first : FirstOf phase.offers target) (chooses : Chooses rules s phase target next) :
    Departing s next := by
  cases chooses with
  | drone found => exact ⟨departing target first.mem, _, found, rfl, rfl⟩
  | droneGone => trivial
  | destination => trivial
  | sourceLane => trivial
  | dropped => trivial
  | full => trivial
  | last => trivial
  | added => trivial
  | destinationLane => trivial

theorem departing_of_advance {event : Event} (departing : Departing s phase)
    (h : advance rules s phase event = .ok next) : Departing s next := by
  rcases advance_cases h with rfl | rfl | ⟨lane, count, selected, offers, rfl, -, rfl⟩ |
    ⟨target, first, chooses⟩
  · trivial
  · exact departing
  · trivial
  · exact departing_of_chooses departing first chooses

theorem finds_mover {kind : Kind} {start : MovePhase} {events : List Event} {drone : Target}
    {lane : LaneId} {offers : List Target} (sound : s.field.Sound)
    (begins : begin rules s kind = .ok start)
    (run : (advance rules).Leads s start events (.destination drone lane offers)) :
    s.field.Finds drone (some lane) ∧
      ((∀ t ∈ offers, t.owner = drone.owner) ↔ offers = [] ∨ ¬s.field.Hides drone) := by
  obtain ⟨shown, st, looked, rfl, rfl⟩ :=
    run.invariant departing_of_advance (departing_of_begin begins)
  refine ⟨Battlefield.finds_of_station? sound shown looked, ?_⟩
  rw [← Battlefield.owner_of_station?_iff sound shown looked]
  -- All offers are of one owner, so they tell nothing only if there are none.
  cases s.field.neighbours (some st.lane) with
  | nil => simp
  | cons l rest => simpa [Target.ofLane] using fun own _ _ => own

end MoveFlow

/-! ### Both flows -/

/-- On sound boards a drone is taken to stand where its owner has it, unless one of its id on
the first board stands elsewhere, and is moved on its owner's side, unless such a one is in a
lane at all. -/
theorem located_of_flows (r : Referee) (rules : Rules) {s : Situation} (sound : s.field.Sound) :
    (∀ card events phase payment, CardFlow.Reached r s card events phase →
      phase.payment? = some payment → payment.target.kind = .drone →
      s.field.Finds payment.target payment.sourceLane) ∧
    (∀ card events c primary payment offers,
      CardFlow.Reached r s card events (.secondary c primary payment offers) →
      primary.target.kind = .drone →
      (s.afterPaying payment).field.Finds primary.target primary.lane) ∧
    (∀ kind first events drone lane offers, MoveFlow.begin rules s kind = .ok first →
      (MoveFlow.advance rules).Leads s first events (.destination drone lane offers) →
      s.field.Finds drone (some lane) ∧
        ((∀ t ∈ offers, t.owner = drone.owner) ↔ offers = [] ∨ ¬s.field.Hides drone)) := by
  refine ⟨?_, ?_, ?_⟩
  · intro card events phase payment reached paid drone
    exact CardFlow.finds_payer sound reached paid drone
  · intro card events c primary payment offers reached drone
    exact CardFlow.finds_primary sound reached drone
  · intro kind first events drone lane offers begins run
    exact MoveFlow.finds_mover sound begins run

/-! ### A scout on either side -/

def shove : Card where
  id := "SHOVE"
  name := "Shove"
  targeting := { type := "DRONE", affinity := some "ENEMY" }

def twins : Situation where
  acting := "player1"
  field :=
    { first := { player := "player1", drones := .ofList [("lane1", [scout])] }
      second := { player := "player2", drones := .ofList [("lane2", [scout])] } }
  definition := .card shove

/-- The other player's scout is picked, and the lane beside one's own is offered. -/
theorem shoves_the_wrong_scout : twins.field.Sound ∧
    MoveFlow.begin {} twins .single = .ok (.drone [.ofDrone scout "player2" "lane2"]) ∧
    MoveFlow.advance {} twins (.drone [.ofDrone scout "player2" "lane2"])
        (.select (.ofDrone scout "player2" "lane2")) =
      .ok (.destination (.ofDrone scout "player2" "lane2") "lane1" [.ofLane "lane2" "player1"]) :=
  ⟨by decide, rfl, rfl⟩

theorem shoved_scout_is_misplaced : twins.field.Sound ∧
    twins.field.Misplaces (.ofDrone scout "player2" "lane2") := by
  have sound : twins.field.Sound := by decide
  have run : (MoveFlow.advance {}).Leads twins (.drone [.ofDrone scout "player2" "lane2"])
      [.select (.ofDrone scout "player2" "lane2")]
      (.destination (.ofDrone scout "player2" "lane2") "lane1" [.ofLane "lane2" "player1"]) :=
    .cons rfl (.nil _ _)
  obtain ⟨-, -, moves⟩ := located_of_flows {} {} sound
  obtain ⟨finds, -⟩ := moves .single _ _ _ _ _ rfl run
  refine ⟨sound, Classical.byContradiction fun placed => ?_⟩
  exact absurd (finds.right_iff.2 placed) (by decide)

end DroneTactics
