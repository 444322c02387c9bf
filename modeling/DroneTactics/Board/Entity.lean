/-!
The things that stand on a board or are held by a player. Ids are texts and are
compared as such; nothing here promises that they are distinct.
-/

namespace DroneTactics

abbrev PlayerId := String

abbrev LaneId := String

/-- A deployed drone with its own values, before any modifier. -/
structure Drone where
  id : String
  name : String
  attack : Int := 0
  speed : Int := 0
  hull : Int := 1
  maxHull : Option Int := none
  shields : Int := 0
  exhausted : Bool := false
  marked : Bool := false
  snared : Bool := false
  /-- Read as a set. -/
  keywords : List String := []
  deriving DecidableEq, Repr

/-- Some hull is lost; without a known maximum none is. -/
def Drone.damaged (d : Drone) : Bool :=
  match d.maxHull with
  | some full => d.hull < full
  | none => false

structure ShipSection where
  id : String
  lane : Option LaneId := none
  hull : Int := 0
  maxHull : Option Int := none
  shields : Int := 0
  destroyed : Bool := false
  deriving DecidableEq, Repr

def ShipSection.damaged (s : ShipSection) : Bool :=
  match s.maxHull with
  | some full => s.hull < full
  | none => false

/-- A card in hand. Several may carry the same card id. -/
structure HandCard where
  id : String
  cardId : String
  name : String := ""
  cost : Int := 0
  deriving DecidableEq, Repr

structure DroneType where
  name : String
  upgradeSlots : Int := 0
  deriving DecidableEq, Repr

/-- An upgrade attached to a drone type. Without a size it takes the usual one. -/
structure Upgrade where
  instanceId : String
  cardId : String
  name : String := ""
  slots : Option Int := none
  indestructible : Bool := false
  deriving DecidableEq, Repr

end DroneTactics
