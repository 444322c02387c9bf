import DroneTactics.Board.Stats
import DroneTactics.Definition.Basic
import DroneTactics.Targeting.Target

/-!
A situation is everything that one question about targets may look at: who acts,
the boards, the definition in play, and what has been paid for it so far.
-/

namespace DroneTactics

structure Payment where
  target : Target
  /-- Where a drone stood when it was chosen. -/
  sourceLane : Option LaneId := none
  /-- Where a drone is to be moved. -/
  destinationLane : Option LaneId := none
  deriving DecidableEq, Repr

/-- The boards once a cost is paid: a discarded card has left its owner's hand, and
a moved drone stands at the end of its lane. Any other cost changes nothing. -/
def Payment.applyTo (p : Payment) (f : Battlefield) : Battlefield :=
  match f.board? p.target.owner with
  | none => f
  | some b =>
    match p.target.kind, p.destinationLane with
    | .card, _ => f.withBoard (b.discard p.target.id)
    | .drone, some lane => f.withBoard (b.moveDrone p.target.id lane)
    | _, _ => f

/-- The first choice of a card that asks for two. -/
structure PrimaryChoice where
  target : Target
  lane : Option LaneId
  owner : PlayerId
  deriving DecidableEq, Repr

inductive Source where
  | drone (d : Drone)
  | shipSection (s : ShipSection)
  deriving DecidableEq, Repr

/-- Everything a question about targets may look at. -/
structure Situation where
  acting : PlayerId
  field : Battlefield
  definition : Definition
  source : Option Source := none
  /-- The card in hand that is being played. -/
  playing : Option String := none
  stats : StatModel := StatModel.base
  payment : Option Payment := none
  /-- Sections that the rules of combat shield. -/
  shielded : ShipSection → PlayerId → Bool := fun _ _ => false

namespace Situation

def opponent? (s : Situation) : Option PlayerId := s.field.opponent? s.acting

def playedAs (s : Situation) (d : Definition) : Situation := { s with definition := d }

def afterPaying (s : Situation) : Option Payment → Situation
  | none => { s with payment := none }
  | some p => { s with payment := some p, field := p.applyTo s.field }

/-- The players that an affinity word selects and that have a board, the acting
player first. A word that means nothing selects nobody. -/
def players (s : Situation) (word : String) : List PlayerId :=
  let selected : List (Option PlayerId) :=
    match Affinity.ofName? word with
    | some .friendly => [some s.acting]
    | some .enemy => [s.opponent?]
    | some .any => [some s.acting, s.opponent?]
    | none => []
  selected.reduceOption.filter fun player => (s.field.board? player).isSome

def boards (s : Situation) (word : String) : List (PlayerId × Board) :=
  (s.players word).filterMap fun player => (s.field.board? player).map (player, ·)

def setting (s : Situation) (owner : PlayerId) : StatSetting := ⟨owner, s.field⟩

def value? (s : Situation) (d : Drone) (lane : LaneId) (owner : PlayerId) (name : String) :
    Option StatValue :=
  s.stats.value? d lane (s.setting owner) name

def sourceLane? (s : Situation) : Option LaneId :=
  match s.source with
  | none => none
  | some (.shipSection sec) => sec.lane
  | some (.drone d) => (s.field.station? d.id).map Station.lane

end Situation

end DroneTactics
