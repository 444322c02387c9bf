import DroneTactics.Targeting.Restriction

/-!
The drones that a definition would hit, shown before it is played: those of each
targeted lane, or with a rule that aims at nothing and filters, those of the whole
field. Effects that only use a lane as a place hit nobody.
-/

namespace DroneTactics

/-- The first elements of a list up to a number; a negative number leaves out that
many at the end. -/
def takeUpTo {α : Type} (n : Int) (xs : List α) : List α :=
  if 0 ≤ n then xs.take n.toNat else xs.take (xs.length - n.natAbs)

namespace Situation

/-- The drones in a lane that a rule with a filter hits, up to its cap. A cap of zero
is none. -/
def filteredHits (s : Situation) (t : Targeting) (owner : PlayerId) (lane : LaneId)
    (drones : List Drone) : List Drone :=
  let hits := drones.filter fun d => s.dronePasses d lane owner t.affectedFilter none
  match t.maxTargets with
  | some n => if n = 0 then hits else takeUpTo n hits
  | none => hits

def laneHits (s : Situation) (t : Targeting) (target : Target) : List Drone :=
  match s.field.board? target.owner with
  | none => []
  | some board =>
    let drones := board.dronesIn target.id
    if t.affectedFilter.isEmpty then drones
    else s.filteredHits t target.owner target.id drones

def fieldHits (s : Situation) (t : Targeting) : List Drone :=
  (s.boards t.affinityWord).flatMap fun (owner, board) =>
    (board.dronesAlong s.field.lanes).filterMap fun (lane, d) =>
      if s.dronePasses d lane owner t.affectedFilter none then some d else none

def affectedIds (s : Situation) (d : Definition) (lanes : List Target) : List String :=
  let t := d.targeting
  match t.aim? with
  | some .nothing => if t.affectedFilter.isEmpty then [] else (s.fieldHits t).map Drone.id
  | some .lane =>
    if d.effect.any fun e => harmlessWords.contains e.type then []
    else (lanes.flatMap (s.laneHits t)).map Drone.id
  | _ => []

end Situation

end DroneTactics
