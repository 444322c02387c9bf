import DroneTactics.Board.Control
import DroneTactics.Definition.Basic
import DroneTactics.Rules

/-!
Whether the lanes allow a card to be played at all. A card without a condition always
can; a condition whose word means nothing is never met. Whether there is anything to
target is a separate question.
-/

namespace DroneTactics

/-- Whether a condition is met for a player. An empty operator asks for every lane. -/
def PlayCondition.met (c : PlayCondition) (player : PlayerId) (f : Battlefield) : Bool :=
  match c.kind? with
  | some .controlLanes =>
    f.control.satisfies (some player) c.lanes (some (if c.operator = "" then "ALL" else c.operator))
  | some .controlLaneEmpty =>
    f.lanes.any fun lane => f.control.clears (some player) f.first f.second lane
  | none => false

def Card.playable (c : Card) (player : PlayerId) (f : Battlefield) : Bool :=
  c.condition.all fun condition => condition.met player f

def Definition.playable (d : Definition) (player : PlayerId) (f : Battlefield) :
    Except Fault Bool :=
  match d with
  | .card c => .ok (c.playable player f)
  | .ability _ => .error .notACard

end DroneTactics
