import DroneTactics.Board.Entity

/-!
Lanes stand side by side in a list. The neighbours of a lane are found at the
positions next to its first occurrence; a lane that is not listed has none.
-/

namespace DroneTactics

def standardLanes : List LaneId := ["lane1", "lane2", "lane3"]

def laneIndex? (lanes : List LaneId) (lane : Option LaneId) : Option Nat :=
  lane.bind fun l => lanes.idxOf? l

def lanesBeside (lanes : List LaneId) (i : Nat) : List LaneId :=
  let before := if i = 0 then none else lanes[i - 1]?
  before.toList ++ lanes[i + 1]?.toList

def neighbours (lanes : List LaneId) (lane : Option LaneId) : List LaneId :=
  match laneIndex? lanes lane with
  | some i => lanesBeside lanes i
  | none => []

end DroneTactics
