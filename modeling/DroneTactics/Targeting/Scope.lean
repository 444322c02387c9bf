import DroneTactics.Targeting.Situation

/-!
The lanes a targeting rule reaches. A rule without a location reaches every lane.
What depends on the source needs a source that is somewhere, and what depends on the
cost needs a cost that names a lane; otherwise no lane is reached.
-/

namespace DroneTactics.Situation

/-- A lane that is known to the field, by itself. -/
def onlyKnown (s : Situation) (lane : Option LaneId) : List LaneId :=
  lane.toList.filter fun l => l ∈ s.field.lanes

def lanesOf (s : Situation) : Reach → List LaneId
  | .anyLane => s.field.lanes
  | .allLanes => s.field.lanes
  | .sameLane => s.onlyKnown s.sourceLane?
  | .adjacentLane => s.field.neighbours s.sourceLane?
  | .costSourceLane => s.onlyKnown (s.payment.bind Payment.sourceLane)
  | .costDestinationLane => s.onlyKnown (s.payment.bind Payment.destinationLane)

/-- The lanes a location reaches, in lane order. A word that is no reach is the id of
a lane. -/
def scope (s : Situation) (location : Option String) : List LaneId :=
  match location with
  | none => s.field.lanes
  | some word =>
    match Reach.ofName? word with
    | some reach => s.lanesOf reach
    | none => s.onlyKnown (some word)

/-- Whether a location reaches what stands in a lane, or in none: a rule that reaches
every lane reaches that too. -/
def reaches (s : Situation) (location : Option String) (lane : Option LaneId) : Bool :=
  match location.map Reach.ofName? with
  | none => true
  | some (some .anyLane) => true
  | some (some .allLanes) => true
  | some _ => lane.any fun l => l ∈ s.scope location

end DroneTactics.Situation
