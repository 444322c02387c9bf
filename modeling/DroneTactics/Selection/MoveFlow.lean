import DroneTactics.Selection.Event
import DroneTactics.Targeting.Restriction

/-!
Choosing drones to move and where they go. A single move takes one drone to a lane
next to its own; a group move takes drones of one lane to a lane next to that. A drone
that is exhausted or inert is never offered.
-/

namespace DroneTactics

inductive MovePhase where
  | idle
  | drone (offers : List Target)
  | destination (drone : Target) (sourceLane : LaneId) (offers : List Target)
  | sourceLane (count : Option Int) (offers : List Target)
  | drones (sourceLane : LaneId) (count : Option Int) (selected : List Target)
      (offers : List Target)
  | destinationLane (sourceLane : LaneId) (selected : List Target) (offers : List Target)
  | complete (drones : List Target) (sourceLane : LaneId) (destinationLane : LaneId)
  deriving DecidableEq

def MovePhase.offers : MovePhase → List Target
  | .drone offers => offers
  | .destination _ _ offers => offers
  | .sourceLane _ offers => offers
  | .drones _ _ _ offers => offers
  | .destinationLane _ _ offers => offers
  | .idle => []
  | .complete _ _ _ => []

namespace MoveFlow

/-- The first phase of a single move: the drones that can move and pass every demand,
the acting player's unless the rule names an affinity. -/
def beginSingle (rules : Rules) (s : Situation) : Except Fault MovePhase := do
  let t := s.definition.targeting
  let boards := s.boards (t.affinity.getD Affinity.friendly.name)
  rules.askToMove (boards.flatMap fun (_, board) =>
    (board.dronesAlong s.field.lanes).map Prod.snd)
  pure <| .drone <| boards.flatMap fun (owner, board) =>
    (board.dronesAlong s.field.lanes).filterMap fun (lane, d) =>
      if s.canMove rules d lane owner && s.dronePasses d lane owner t.demands none then
        some (.ofDrone d owner lane)
      else none

/-- The first phase of a group move: the lanes in which the acting player has drones. -/
def beginGroup (s : Situation) : MovePhase :=
  let lanes := match s.field.board? s.acting with
    | some board => s.field.lanes.filter fun lane => 0 < board.droneCount lane
    | none => []
  .sourceLane (s.definition.effect.bind Effect.count) (lanes.map (.ofLane · s.acting))

def chooseDrone (s : Situation) (target : Target) : MovePhase :=
  match s.field.station? target.id with
  | some st =>
    .destination target st.lane
      ((s.field.neighbours (some st.lane)).map (.ofLane · st.owner))
  | none => .idle

/-- The lane of a group move has been picked: the acting player's drones in it that
can move. -/
def chooseSourceLane (rules : Rules) (s : Situation) (count : Option Int) (lane : LaneId) :
    Except Fault MovePhase :=
  match s.field.board? s.acting with
  | some board => do
    rules.askToMove (board.dronesIn lane)
    pure (.drones lane count []
      (((board.dronesIn lane).filter fun d => s.canMove rules d lane s.acting).map
        (.ofDrone · s.acting lane)))
  | none => .error .noBoard

def toDestination (s : Situation) (lane : LaneId) (selected : List Target) : MovePhase :=
  .destinationLane lane selected ((s.field.neighbours (some lane)).map (.ofLane · s.acting))

/-- A drone of a group has been picked: it joins the group, or leaves it if it is in
already. A group that has reached its count is complete. -/
def toggle (s : Situation) (lane : LaneId) (count : Option Int) (selected offers : List Target)
    (target : Target) : MovePhase :=
  if selected.any (·.key = target.key) then
    .drones lane count (selected.filter (·.key ≠ target.key)) offers
  else if count.any fun n => n ≤ (selected.length : Int) then .drones lane count selected offers
  else
    let grown := selected ++ [target]
    if count = some (grown.length : Int) then toDestination s lane grown
    else .drones lane count grown offers

def choose (rules : Rules) (s : Situation) (phase : MovePhase) (target : Target) :
    Except Fault MovePhase :=
  match phase with
  | .drone _ => pure (chooseDrone s target)
  | .destination drone lane _ => pure (.complete [drone] lane target.id)
  | .sourceLane count _ => chooseSourceLane rules s count target.id
  | .drones lane count selected offers => pure (toggle s lane count selected offers target)
  | .destinationLane lane selected _ => pure (.complete selected lane target.id)
  | .idle => pure .idle
  | .complete drones lane destination => pure (.complete drones lane destination)

def confirm (s : Situation) : MovePhase → MovePhase
  | .drones lane count selected offers =>
    if selected.isEmpty then .drones lane count selected offers else toDestination s lane selected
  | phase => phase

def advance (rules : Rules) : Transition MovePhase := fun s phase event =>
  match event with
  | .cancel => pure .idle
  | .confirm => pure (confirm s phase)
  | .select picked =>
    match pick? phase.offers picked with
    | some target => choose rules s phase target
    | none => pure phase

inductive Kind where
  | single
  | group
  deriving DecidableEq, Repr

def begin (rules : Rules) (s : Situation) : Kind → Except Fault MovePhase
  | .single => beginSingle rules s
  | .group => pure (beginGroup s)

def history (rules : Rules) (s : Situation) (kind : Kind) (turns : List Turn) :
    List (Except Fault MovePhase) :=
  match begin rules s kind with
  | .ok phase => .ok phase :: (advance rules).history s phase turns
  | .error fault => [.error fault]

end MoveFlow

end DroneTactics
