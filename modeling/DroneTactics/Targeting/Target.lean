import DroneTactics.Board.Basic

/-!
Targets: what a player can pick. A target carries enough to be shown and checked
without a second look-up. What identifies it is its key alone; the lane, the thing
itself and the holder are information about it.
-/

namespace DroneTactics

inductive TargetKind where
  | drone
  | lane
  | shipSection
  | card
  | upgrade
  | droneType
  deriving DecidableEq, Repr

namespace TargetKind

def name : TargetKind → String
  | .drone => "drone"
  | .lane => "lane"
  | .shipSection => "section"
  | .card => "card"
  | .upgrade => "upgrade"
  | .droneType => "drone_type"

def ofName? : String → Option TargetKind
  | "drone" => some .drone
  | "lane" => some .lane
  | "section" => some .shipSection
  | "card" => some .card
  | "upgrade" => some .upgrade
  | "drone_type" => some .droneType
  | _ => none

@[simp] theorem ofName?_name (k : TargetKind) : ofName? k.name = some k := by
  cases k <;> rfl

end TargetKind

inductive Entity where
  | drone (d : Drone)
  | shipSection (s : ShipSection)
  | card (c : HandCard)
  | droneType (t : DroneType)
  | upgrade (u : Upgrade)
  deriving DecidableEq, Repr

structure Target where
  kind : TargetKind
  id : String
  owner : PlayerId
  lane : Option LaneId := none
  entity : Option Entity := none
  /-- The drone type that an upgrade is attached to. -/
  holder : Option String := none
  deriving DecidableEq, Repr

/-- What identifies a target. -/
structure TargetKey where
  kind : TargetKind
  id : String
  owner : PlayerId
  deriving DecidableEq, Repr

namespace Target

def key (t : Target) : TargetKey := ⟨t.kind, t.id, t.owner⟩

def drone? (t : Target) : Option Drone :=
  match t.entity with
  | some (.drone d) => some d
  | _ => none

def ofDrone (d : Drone) (owner : PlayerId) (lane : LaneId) : Target :=
  { kind := .drone, id := d.id, owner, lane, entity := some (.drone d) }

def ofLane (lane : LaneId) (owner : PlayerId) : Target :=
  { kind := .lane, id := lane, owner, lane }

def ofSection (s : ShipSection) (owner : PlayerId) : Target :=
  { kind := .shipSection, id := s.id, owner, lane := s.lane, entity := some (.shipSection s) }

def ofCard (c : HandCard) (owner : PlayerId) : Target :=
  { kind := .card, id := c.id, owner, entity := some (.card c) }

def ofUpgrade (u : Upgrade) (owner : PlayerId) (holder : String) : Target :=
  { kind := .upgrade, id := u.instanceId, owner, entity := some (.upgrade u), holder }

def ofDroneType (t : DroneType) (owner : PlayerId) : Target :=
  { kind := .droneType, id := t.name, owner, entity := some (.droneType t) }

end Target

/-- The offered target that a pick means: the first with the same key. -/
def pick? (offers : List Target) (picked : Target) : Option Target :=
  offers.find? fun t => t.key = picked.key

end DroneTactics
