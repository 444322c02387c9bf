import DroneTactics.Targeting.Restriction
import DroneTactics.Targeting.Scope

/-!
Second targets, found relative to a first choice that is already made: a lane next to
it or named by its id, or another drone in its lane. No other combination has any.
-/

namespace DroneTactics

def PrimaryChoice.reference? (primary : PrimaryChoice) (lane : LaneId) : Option Reference :=
  match primary.target.entity with
  | some (.drone d) => some ⟨d, lane, primary.owner⟩
  | _ => none

namespace Situation

/-- The player whose side of a lane a second choice is about: the acting player's,
unless the rule asks for the enemy's and there is an opponent. -/
def secondaryLaneOwner (s : Situation) (t : SecondaryTargeting) : PlayerId :=
  if Affinity.ofName? t.affinity = some .enemy then s.opponent?.getD s.acting else s.acting

/-- Lanes for a second choice. The id of a lane goes before a reach. -/
def secondaryLanes (s : Situation) (primary : PrimaryChoice) (t : SecondaryTargeting) :
    List Target :=
  let owner := s.secondaryLaneOwner t
  match s.onlyKnown t.location with
  | lane :: _ => [.ofLane lane owner]
  | [] =>
    if t.reach? = some .adjacentToPrimary then
      (s.field.neighbours primary.lane).map (.ofLane · owner)
    else []

/-- Drones for a second choice: those in the lane of the first, without it. -/
def secondaryDrones (s : Situation) (primary : PrimaryChoice) (t : SecondaryTargeting) :
    List Target :=
  match t.reach?, primary.lane with
  | some .primarySourceLane, some lane =>
    (s.boards t.affinity).flatMap fun (owner, board) =>
      ((board.dronesIn lane).filter fun d =>
        d.id ≠ primary.target.id
          && s.dronePasses d lane owner t.restrictions (primary.reference? lane)).map
        (.ofDrone · owner lane)
  | _, _ => []

def secondaryTargets (s : Situation) (primary : PrimaryChoice) (t : SecondaryTargeting) :
    List Target :=
  match t.aim? with
  | some .lane => s.secondaryLanes primary t
  | some .drone => s.secondaryDrones primary t
  | _ => []

end Situation

end DroneTactics
