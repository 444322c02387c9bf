import DroneTactics.Amount
import DroneTactics.Targeting.Restriction
import DroneTactics.Targeting.Scope

/-!
The targets of a targeting rule, for each kind of thing it can aim at. Targets come
in one order throughout: the acting player before the opponent, lanes in lane order,
and what stands in a lane or lies on a board in the order in which it is there.
-/

namespace DroneTactics.Situation

def droneTargets (s : Situation) (t : Targeting) : List Target :=
  (s.boards t.affinityWord).flatMap fun (owner, board) =>
    (board.dronesAlong (s.scope t.location)).filterMap fun (lane, d) =>
      if s.dronePasses d lane owner t.demands none then some (.ofDrone d owner lane) else none

def laneTargets (s : Situation) (t : Targeting) : List Target :=
  (s.boards t.affinityWord).flatMap fun (owner, _) =>
    ((s.scope t.location).filter fun lane =>
      t.demands.all (s.laneMeets lane owner s.field.control)).map (.ofLane · owner)

/-- Standing sections within reach that nothing shields and that meet every demand. -/
def sectionTargets (s : Situation) (t : Targeting) : List Target :=
  (s.boards t.affinityWord).flatMap fun (owner, board) =>
    (board.sections.filter fun sec =>
      !sec.destroyed && s.reaches t.location sec.lane && !s.shielded sec owner
        && t.demands.all sec.meets).map (.ofSection · owner)

/-- The source itself. A section that is not placed counts as the acting player's; a
drone that is not on the board is no target. -/
def selfTargets (s : Situation) : List Target :=
  match s.source with
  | none => []
  | some (.shipSection sec) =>
    [.ofSection sec (((s.field.section? sec.id).map Prod.fst).getD s.acting)]
  | some (.drone d) =>
    ((s.field.station? d.id).map fun st => Target.ofDrone st.drone st.owner st.lane).toList

/-- The acting player's other cards in hand, if the rule is about friendly cards. -/
def handTargets (s : Situation) (t : Targeting) : List Target :=
  if Affinity.ofName? t.affinityWord = some .friendly then
    match s.field.board? s.acting with
    | some board =>
      (board.hand.filter fun c => some c.id ≠ s.playing).map (.ofCard · s.acting)
    | none => []
  else []

/-- Upgrades that can be destroyed; the opponent's, unless the rule names an affinity. -/
def upgradeTargets (s : Situation) (t : Targeting) : List Target :=
  (s.boards (t.affinity.getD Affinity.enemy.name)).flatMap fun (owner, board) =>
    (board.upgrades.toList.filter fun (_, u) => !u.indestructible).map fun (holder, u) =>
      .ofUpgrade u owner holder

/-- An amount that a card states, or what the rules say when it states none or zero. -/
def statedOr (stated : Option Int) (usual : Value) : Value :=
  match stated with
  | some n => if n = 0 then usual else .int n
  | none => usual

def slotsUsed (rules : Rules) (upgrades : List Upgrade) : Except Fault Amount :=
  upgrades.foldlM (fun total u => do
    let slots ← Amount.ofValue (match u.slots with | some n => .int n | none => rules.slotCost)
    total.add slots) (.whole 0)

def admits (rules : Rules) (card : Card) (board : Board) (type : DroneType) :
    Except Fault Bool := do
  let attached := board.upgradesOf type.name
  let used ← slotsUsed rules attached
  let slots ← Amount.ofValue (statedOr (some card.slots) rules.slotCost)
  let needed ← used.add slots
  if needed.isAtMost (.whole type.upgradeSlots) then
    let limit ← Amount.ofValue (statedOr card.maxApplications rules.maxApplications)
    let applied : Int := (attached.filter fun u => u.cardId = card.id).length
    pure ((Amount.whole applied).isBelow limit)
  else pure false

def slotTargetsOf (s : Situation) (rules : Rules) (card : Card) : Except Fault (List Target) :=
  match s.field.board? s.acting with
  | some board => do
    let fitting ← board.pool.filterM (admits rules card board)
    pure (fitting.map (.ofDroneType · s.acting))
  | none => pure []

def slotTargets (s : Situation) (rules : Rules) : Except Fault (List Target) :=
  match s.definition with
  | .card card => s.slotTargetsOf rules card
  | .ability _ => pure []

def targetsFor (s : Situation) (rules : Rules) (t : Targeting) : Aim → Except Fault (List Target)
  | .drone => pure (s.droneTargets t)
  | .lane => pure (s.laneTargets t)
  | .shipSection => pure (s.sectionTargets t)
  | .self => pure s.selfTargets
  | .handCard => pure (s.handTargets t)
  | .upgrade => pure (s.upgradeTargets t)
  | .droneType => s.slotTargets rules
  | .nothing => pure []

end DroneTactics.Situation
