import DroneTactics.Board.Basic

/-!
Lane control. A lane belongs to the player with strictly more drones in it; a tie,
and so an empty lane, leaves it to nobody.
-/

namespace DroneTactics

abbrev LaneControl := LaneId → Option PlayerId

def leader (a b : Board) (lane : LaneId) : Option PlayerId :=
  if b.droneCount lane < a.droneCount lane then some a.player
  else if a.droneCount lane < b.droneCount lane then some b.player
  else none

/-- Control of the given lanes; no player controls any other. -/
def laneControl (a b : Board) (lanes : List LaneId) : LaneControl :=
  fun lane => if lane ∈ lanes then leader a b lane else none

def Battlefield.control (f : Battlefield) : LaneControl :=
  laneControl f.first f.second f.lanes

namespace LaneControl

/-- Whether a player controls every listed lane, or at least one of them, as the
word says. Any other word asks for something that never holds. -/
def satisfies (control : LaneControl) (player : Option PlayerId) (lanes : List LaneId)
    (word : Option String) : Bool :=
  let held := lanes.map fun lane => decide (control lane = player)
  match word with
  | some "ALL" => held.all id
  | some "ANY" => held.any id
  | _ => false

def clears (control : LaneControl) (player : Option PlayerId) (a b : Board) (lane : LaneId) :
    Bool :=
  let other := if some a.player = player then b else a
  control lane = player && other.droneCount lane == 0

end LaneControl

end DroneTactics
