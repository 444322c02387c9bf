import DroneTactics.Selection.Event
import DroneTactics.Targeting.Referee
import DroneTactics.Targeting.Secondary

/-!
Choosing for a card, from the click on it until nothing is left to choose: what pays
its extra cost, where a moved drone goes, the target, and a second target. Each phase
carries what it offers; a pick that is not offered changes nothing. Once a cost is
chosen the flow never waits for a choice that nobody can make: it completes and says
that something was skipped.
-/

namespace DroneTactics

inductive CardPhase where
  | idle
  | cost (card : Card) (offers : List Target)
  | costDestination (card : Card) (payment : Payment) (offers : List Target)
  | effect (card : Card) (payment : Option Payment) (offers : List Target)
  | secondary (card : Card) (primary : PrimaryChoice) (payment : Option Payment)
      (offers : List Target)
  | complete (card : Card) (payment : Option Payment) (target : Option Target)
      (second : Option Target) (skipped : Bool)

namespace CardPhase

def offers : CardPhase → List Target
  | .cost _ offers => offers
  | .costDestination _ _ offers => offers
  | .effect _ _ offers => offers
  | .secondary _ _ _ offers => offers
  | .idle => []
  | .complete _ _ _ _ _ => []

def card? : CardPhase → Option Card
  | .idle => none
  | .cost card _ => some card
  | .costDestination card _ _ => some card
  | .effect card _ _ => some card
  | .secondary card _ _ _ => some card
  | .complete card _ _ _ _ => some card

def payment? : CardPhase → Option Payment
  | .costDestination _ payment _ => some payment
  | .effect _ payment _ => payment
  | .secondary _ _ payment _ => payment
  | .complete _ payment _ _ _ => payment
  | .idle => none
  | .cost _ _ => none

end CardPhase

def Card.untargeted (c : Card) : Bool := !c.isUpgrade && c.targeting.aim? = some .nothing

namespace CardFlow

def enterEffect (r : Referee) (s : Situation) (card : Card) (payment : Option Payment) :
    Except Fault CardPhase :=
  if card.untargeted then pure (.complete card payment none none false)
  else do
    let offers ← r.targetsAfter s payment
    if offers.isEmpty && payment.isSome then pure (.complete card payment none none true)
    else pure (.effect card payment offers)

/-- The first phase for a card. A card that cannot be paid for or has no target stays
where it is. -/
def begin (r : Referee) (s : Situation) (card : Card) : Except Fault CardPhase :=
  let s := s.playedAs (.card card)
  if card.extraCost.isSome then do
    let offers ← r.costTargets s
    pure (if offers.isEmpty then .idle else .cost card offers)
  else do
    match ← enterEffect r s card none with
    | .effect _ _ [] => pure .idle
    | phase => pure phase

def beginFor (r : Referee) (s : Situation) : Definition → Except Fault CardPhase
  | .card card => begin r s card
  | .ability _ => .error .notACard

/-- What pays the cost has been picked. A drone is located now; one that is gone ends
the flow. -/
def chooseCost (r : Referee) (s : Situation) (card : Card) (target : Target) :
    Except Fault CardPhase :=
  let go (lane : Option LaneId) : Except Fault CardPhase :=
    let payment : Payment := { target, sourceLane := lane }
    if card.extraCost.any ExtraCost.isMovement then
      pure (.costDestination card payment
        ((s.field.neighbours lane).map (.ofLane · s.acting)))
    else enterEffect r s card (some payment)
  if target.kind = .drone then
    match s.field.station? target.id with
    | some st => go (some st.lane)
    | none => pure .idle
  else go none

def chooseCostDestination (r : Referee) (s : Situation) (card : Card) (payment : Payment)
    (target : Target) : Except Fault CardPhase :=
  enterEffect r s card (some { payment with destinationLane := some target.id })

/-- The target has been picked. For a second choice a drone is located on the boards
that the cost leaves; one that is gone ends the flow. -/
def chooseEffect (s : Situation) (card : Card) (payment : Option Payment) (target : Target) :
    CardPhase :=
  match card.secondary with
  | none => .complete card payment (some target) none false
  | some rule =>
    let s := s.afterPaying payment
    let go (lane : Option LaneId) : CardPhase :=
      let primary : PrimaryChoice := { target, lane, owner := target.owner }
      match s.secondaryTargets primary rule with
      | [] => .complete card payment (some target) none true
      | offers => .secondary card primary payment offers
    if target.kind = .drone then
      match s.field.station? target.id with
      | some st => go (some st.lane)
      | none => .idle
    else go target.lane

def choose (r : Referee) (s : Situation) (phase : CardPhase) (target : Target) :
    Except Fault CardPhase :=
  match phase with
  | .cost card _ => chooseCost r (s.playedAs (.card card)) card target
  | .costDestination card payment _ =>
    chooseCostDestination r (s.playedAs (.card card)) card payment target
  | .effect card payment _ => pure (chooseEffect (s.playedAs (.card card)) card payment target)
  | .secondary card primary payment _ =>
    pure (.complete card payment (some primary.target) (some target) false)
  | .idle => pure .idle
  | .complete card payment first second skipped =>
    pure (.complete card payment first second skipped)

/-- One event. Calling off always ends the flow; what a phase does not expect or does
not offer leaves it as it is. -/
def advance (r : Referee) : Transition CardPhase := fun s phase event =>
  match event with
  | .cancel => pure .idle
  | .confirm => pure phase
  | .select picked =>
    match pick? phase.offers picked with
    | some target => choose r s phase target
    | none => pure phase

def history (r : Referee) (s : Situation) (d : Definition) (turns : List Turn) :
    List (Except Fault CardPhase) :=
  match beginFor r s d with
  | .ok phase => .ok phase :: (advance r).history s phase turns
  | .error fault => [.error fault]

end CardFlow

end DroneTactics
