import DroneTactics.Board.Lane
import DroneTactics.Board.Roster

/-!
Boards: what each player has, and both players' boards at one moment. Look-ups go
by id and take the first match, the first player's board before the second's.
-/

namespace DroneTactics

structure Board where
  player : PlayerId
  /-- The drones of each lane, in the order in which they stand. -/
  drones : Roster Drone := ∅
  hand : List HandCard := []
  sections : List ShipSection := []
  pool : List DroneType := []
  /-- The upgrades attached to each drone type. -/
  upgrades : Roster Upgrade := ∅
  deriving DecidableEq

namespace Board

def dronesIn (b : Board) (lane : LaneId) : List Drone := b.drones.get lane

def droneCount (b : Board) (lane : LaneId) : Nat := (b.dronesIn lane).length

/-- The drones of several lanes, each with its lane, lane by lane. -/
def dronesAlong (b : Board) (lanes : List LaneId) : List (LaneId × Drone) :=
  lanes.flatMap fun lane => (b.dronesIn lane).map (lane, ·)

def upgradesOf (b : Board) (droneType : String) : List Upgrade := b.upgrades.get droneType

def discard (b : Board) (cardId : String) : Board :=
  { b with hand := b.hand.filter fun card => card.id ≠ cardId }

/-- The board with the first drone of an id moved to the end of a lane. -/
def moveDrone (b : Board) (droneId : String) (lane : LaneId) : Board :=
  { b with drones := b.drones.relocate (fun d => d.id = droneId) lane }

end Board

/-- Both players' boards at one moment, and the lanes between them. -/
structure Battlefield where
  first : Board
  second : Board
  lanes : List LaneId := standardLanes
  deriving DecidableEq

structure Station where
  owner : PlayerId
  lane : LaneId
  drone : Drone
  deriving DecidableEq

namespace Battlefield

def boards (f : Battlefield) : List Board := [f.first, f.second]

def board? (f : Battlefield) (player : PlayerId) : Option Board :=
  f.boards.find? fun b => b.player = player

def withBoard (f : Battlefield) (b : Board) : Battlefield :=
  if b.player = f.first.player then { f with first := b }
  else if b.player = f.second.player then { f with second := b }
  else f

def opponent? (f : Battlefield) (player : PlayerId) : Option PlayerId :=
  if player = f.first.player then some f.second.player
  else if player = f.second.player then some f.first.player
  else none

/-- Every drone in a lane of the field, with its place, in the order of look-up. -/
def stations (f : Battlefield) : List Station :=
  f.boards.flatMap fun b =>
    (b.dronesAlong f.lanes).map fun (lane, drone) => ⟨b.player, lane, drone⟩

/-- Where the first drone of an id stands. -/
def station? (f : Battlefield) (droneId : String) : Option Station :=
  f.stations.find? fun s => s.drone.id = droneId

def section? (f : Battlefield) (sectionId : String) : Option (PlayerId × ShipSection) :=
  (f.boards.flatMap fun b => b.sections.map (b.player, ·)).find? fun s => s.2.id = sectionId

def neighbours (f : Battlefield) (lane : Option LaneId) : List LaneId :=
  DroneTactics.neighbours f.lanes lane

end Battlefield

end DroneTactics
