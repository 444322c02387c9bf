/-!
The closed vocabularies of card data. Card data spells these as words and may hold
words that mean nothing; each vocabulary therefore comes with a reading that
accepts its own spellings exactly and nothing else.
-/

namespace DroneTactics

/-- What kind of thing a targeting rule selects. -/
inductive Aim where
  | drone
  | lane
  | shipSection
  | self
  | handCard
  | upgrade
  | droneType
  | nothing
  deriving DecidableEq, Repr

namespace Aim

def name : Aim → String
  | .drone => "DRONE"
  | .lane => "LANE"
  | .shipSection => "SHIP_SECTION"
  | .self => "SELF"
  | .handCard => "CARD_IN_HAND"
  | .upgrade => "APPLIED_UPGRADE"
  | .droneType => "DRONE_CARD"
  | .nothing => "NONE"

def ofName? : String → Option Aim
  | "DRONE" => some .drone
  | "LANE" => some .lane
  | "SHIP_SECTION" => some .shipSection
  | "SELF" => some .self
  | "CARD_IN_HAND" => some .handCard
  | "APPLIED_UPGRADE" => some .upgrade
  | "DRONE_CARD" => some .droneType
  | "NONE" => some .nothing
  | _ => none

def all : List Aim :=
  [.drone, .lane, .shipSection, .self, .handCard, .upgrade, .droneType, .nothing]

@[simp] theorem ofName?_name (a : Aim) : ofName? a.name = some a := by
  cases a <;> rfl

end Aim

/-- Whose things a targeting rule looks at. -/
inductive Affinity where
  | friendly
  | enemy
  | any
  deriving DecidableEq, Repr

namespace Affinity

def name : Affinity → String
  | .friendly => "FRIENDLY"
  | .enemy => "ENEMY"
  | .any => "ANY"

def ofName? : String → Option Affinity
  | "FRIENDLY" => some .friendly
  | "ENEMY" => some .enemy
  | "ANY" => some .any
  | _ => none

@[simp] theorem ofName?_name (a : Affinity) : ofName? a.name = some a := by
  cases a <;> rfl

end Affinity

/-- Which lanes a targeting rule reaches, apart from a lane named by its id. -/
inductive Reach where
  | anyLane
  | allLanes
  | sameLane
  | adjacentLane
  | costSourceLane
  | costDestinationLane
  deriving DecidableEq, Repr

namespace Reach

def name : Reach → String
  | .anyLane => "ANY_LANE"
  | .allLanes => "ALL_LANES"
  | .sameLane => "SAME_LANE"
  | .adjacentLane => "ADJACENT_LANE"
  | .costSourceLane => "COST_SOURCE_LANE"
  | .costDestinationLane => "COST_DESTINATION_LANE"

def ofName? : String → Option Reach
  | "ANY_LANE" => some .anyLane
  | "ALL_LANES" => some .allLanes
  | "SAME_LANE" => some .sameLane
  | "ADJACENT_LANE" => some .adjacentLane
  | "COST_SOURCE_LANE" => some .costSourceLane
  | "COST_DESTINATION_LANE" => some .costDestinationLane
  | _ => none

@[simp] theorem ofName?_name (r : Reach) : ofName? r.name = some r := by
  cases r <;> rfl

end Reach

/-- Which lanes a second target may be in, relative to the first. -/
inductive SecondaryReach where
  | adjacentToPrimary
  | primarySourceLane
  deriving DecidableEq, Repr

namespace SecondaryReach

def name : SecondaryReach → String
  | .adjacentToPrimary => "ADJACENT_TO_PRIMARY"
  | .primarySourceLane => "PRIMARY_SOURCE_LANE"

def ofName? : String → Option SecondaryReach
  | "ADJACENT_TO_PRIMARY" => some .adjacentToPrimary
  | "PRIMARY_SOURCE_LANE" => some .primarySourceLane
  | _ => none

@[simp] theorem ofName?_name (r : SecondaryReach) : ofName? r.name = some r := by
  cases r <;> rfl

end SecondaryReach

inductive ConditionKind where
  | controlLanes
  | controlLaneEmpty
  deriving DecidableEq, Repr

namespace ConditionKind

def name : ConditionKind → String
  | .controlLanes => "CONTROL_LANES"
  | .controlLaneEmpty => "CONTROL_LANE_EMPTY"

def ofName? : String → Option ConditionKind
  | "CONTROL_LANES" => some .controlLanes
  | "CONTROL_LANE_EMPTY" => some .controlLaneEmpty
  | _ => none

@[simp] theorem ofName?_name (k : ConditionKind) : ofName? k.name = some k := by
  cases k <;> rfl

end ConditionKind

def movementWords : List String := ["SINGLE_MOVE", "MULTI_MOVE"]

/-- Words for effects that use a lane as a place and do not hit the drones in it. -/
def harmlessWords : List String := ["SINGLE_MOVE", "MULTI_MOVE", "CREATE_TOKENS"]

end DroneTactics
