import DroneTactics.Board.Control
import DroneTactics.Rules
import DroneTactics.Targeting.Situation

/-!
What a candidate must meet. All restrictions of a rule hold together. A tag that the
kind of candidate does not know, and a limit on a value that is open, refuse the
candidate; a relation refuses only when both values are there and the comparison
between them is known and fails.
-/

namespace DroneTactics

/-- An earlier choice that a relation compares a candidate with. -/
structure Reference where
  drone : Drone
  lane : LaneId
  owner : PlayerId

/-- Whether a tag holds of a drone; a tag that drones do not know does not. -/
def Drone.hasTag (d : Drone) : String → Bool
  | "MARKED" => d.marked
  | "NOT_MARKED" => !d.marked
  | "EXHAUSTED" => d.exhausted
  | "NOT_EXHAUSTED" => !d.exhausted
  | "SNARED" => d.snared
  | "NOT_SNARED" => !d.snared
  | "DAMAGED_HULL" => d.damaged
  | _ => false

def ShipSection.hasTag (s : ShipSection) : String → Bool
  | "DAMAGED_HULL" => s.damaged
  | _ => false

/-- Whether a section meets a restriction; it meets no filter. -/
def ShipSection.meets (s : ShipSection) : Restriction → Bool
  | .tag word => s.hasTag word
  | _ => false

namespace Situation

def keepsLimit (s : Situation) (d : Drone) (lane : LaneId) (owner : PlayerId)
    (l : StatLimit) : Bool :=
  match s.value? d lane owner l.stat with
  | some v => v.compareByName l.comparison (.single (.int l.value))
  | none => false

def statName? (word : Option String) : Option String :=
  word.filter fun name => name ≠ ""

def keepsRelation (s : Situation) (d : Drone) (lane : LaneId) (owner : PlayerId)
    (r : StatRelation) (reference : Option Reference) : Bool :=
  match reference, statName? r.stat, statName? r.referenceStat with
  | some other, some name, some otherName =>
    match s.value? d lane owner name, s.value? other.drone other.lane other.owner otherName,
        r.comparison.bind Comparison.ofName? with
    | some v, some w, some c => c.holds (v.same w) (v.order? w)
    | _, _, _ => true
  | _, _, _ => true

def droneMeets (s : Situation) (d : Drone) (lane : LaneId) (owner : PlayerId)
    (reference : Option Reference) : Restriction → Bool
  | .tag word => d.hasTag word
  | .limit l => s.keepsLimit d lane owner l
  | .relation r => s.keepsRelation d lane owner r reference

def dronePasses (s : Situation) (d : Drone) (lane : LaneId) (owner : PlayerId)
    (restrictions : List Restriction) (reference : Option Reference) : Bool :=
  restrictions.all (s.droneMeets d lane owner reference)

/-- Whether a tag holds of a player's side of a lane. Control is seen from the acting
player; drones are those of the side's owner. -/
def laneHasTag (s : Situation) (lane : LaneId) (owner : PlayerId) (control : LaneControl) :
    String → Bool
  | "CONTROLLED" => control lane = some s.acting
  | "ENEMY_CONTROLLED" => control lane = s.opponent?
  | "UNCONTROLLED" => control lane = none
  | "HAS_DRONES" => (s.field.board? owner).any fun b => 0 < b.droneCount lane
  | "NO_DRONES" => (s.field.board? owner).any fun b => b.droneCount lane = 0
  | _ => false

def laneMeets (s : Situation) (lane : LaneId) (owner : PlayerId) (control : LaneControl) :
    Restriction → Bool
  | .tag word => s.laneHasTag lane owner control word
  | _ => false

/-- Whether a drone is able to move: it is ready, and neither its own keywords nor
its effective ones hold the inert one. -/
def canMove (s : Situation) (rules : Rules) (d : Drone) (lane : LaneId) (owner : PlayerId) :
    Bool :=
  !d.exhausted && !rules.inert (s.stats.keywords d lane (s.setting owner))
    && !rules.inert d.keywords

end Situation

/-- Some drones are asked whether they are able to move. There is no answer if a ready one
is asked and the inert keyword cannot be looked for. -/
def Rules.askToMove (rules : Rules) (drones : List Drone) : Except Fault Unit :=
  if rules.hasInertKeyword || drones.all Drone.exhausted then .ok () else .error .notAKeyword

end DroneTactics
