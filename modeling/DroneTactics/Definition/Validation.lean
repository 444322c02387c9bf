import DroneTactics.Comparison
import DroneTactics.Board.Lane
import DroneTactics.Definition.Basic

/-!
Consistency of a set of cards and abilities. A defect makes the set invalid. A doubt
concerns a word that nothing acts on: such a word never widens what a player may do,
so it is reported and does no harm. Every defect is worded as it is found, and a check
in which one has no wording gives no report.
-/

namespace DroneTactics

inductive Defect where
  | emptyId
  | duplicateId (id : String)
  | emptyCardName (id : String)
  | tooFewSlots (id : String) (slots : Int)
  | tooFewApplications (id : String)
  | movementCostNotDrone (id : String)
  | noLanes (id : String)
  | unknownLane (id : String) (lane : LaneId)
  | emptyAbilityName
  deriving DecidableEq, Repr

/-- The wording of a defect, unless a number in it is too long to be written. -/
def Defect.message? : Defect → Option String
  | .emptyId => some "Card has empty ID"
  | .duplicateId id => some ("Duplicate card id '" ++ id ++ "'")
  | .emptyCardName id => some ("Card '" ++ id ++ "' has empty name")
  | .tooFewSlots id slots =>
    (Text.ofInt? slots).map fun slots =>
      "Card '" ++ id ++ "' is an Upgrade but uses " ++ slots ++ " slots"
  | .tooFewApplications id => some ("Card '" ++ id ++ "' has max_applications < 1")
  | .movementCostNotDrone id => some ("Card '" ++ id ++ "': movement cost must target a DRONE")
  | .noLanes id => some ("Card '" ++ id ++ "': CONTROL_LANES condition lists no lanes")
  | .unknownLane id lane =>
    some ("Card '" ++ id ++ "': CONTROL_LANES references unknown lane '" ++ lane ++ "'")
  | .emptyAbilityName => some "Ability has empty name"

/-- A word that nothing acts on. -/
inductive Doubt where
  | targetingType (word : String)
  | affinity (word : String)
  | location (word : String)
  | comparison (word : String)
  | secondaryType (word : String)
  | secondaryLocation (word : Option String)
  | conditionType (word : String)
  deriving DecidableEq, Repr

def Doubt.message : Doubt → String
  | .targetingType word => "unknown targeting type '" ++ word ++ "'"
  | .affinity word => "unknown affinity '" ++ word ++ "'"
  | .location word => "unknown location '" ++ word ++ "'"
  | .comparison word => "unknown comparison '" ++ word ++ "'"
  | .secondaryType word => "unsupported secondary type '" ++ word ++ "'"
  | .secondaryLocation word => "unknown secondary location '" ++ word.getD "None" ++ "'"
  | .conditionType word => "unknown condition type '" ++ word ++ "' (never playable)"

inductive Subject where
  | card (id : String)
  | cost (id : String)
  | secondary (id : String)
  | ability (name : String)
  deriving DecidableEq, Repr

def Subject.message : Subject → String
  | .card id => "Card '" ++ id ++ "'"
  | .cost id => "Card '" ++ id ++ "' cost"
  | .secondary id => "Card '" ++ id ++ "' secondary"
  | .ability name => "Ability '" ++ name ++ "'"

structure Warning where
  subject : Subject
  doubt : Doubt
  deriving DecidableEq, Repr

def Warning.message (w : Warning) : String := w.subject.message ++ ": " ++ w.doubt.message

def Restriction.comparisonWord? : Restriction → Option String
  | .tag _ => none
  | .limit l => some l.comparison
  | .relation r => r.comparison

def comparisonDoubts (restrictions : List Restriction) : List Doubt :=
  (restrictions.filterMap Restriction.comparisonWord?).filterMap fun word =>
    if (Comparison.ofName? word).isNone then some (.comparison word) else none

def Targeting.doubts (t : Targeting) (lanes : List LaneId) : List Doubt :=
  (if t.aim?.isNone then [.targetingType t.type] else [])
    ++ (if (Affinity.ofName? t.affinityWord).isNone then [.affinity t.affinityWord] else [])
    ++ (match t.location with
        | some word =>
          if (Reach.ofName? word).isNone ∧ word ∉ lanes then [.location word] else []
        | none => [])
    ++ comparisonDoubts t.demands
    ++ comparisonDoubts t.affectedFilter

def SecondaryTargeting.doubts (t : SecondaryTargeting) (lanes : List LaneId) : List Doubt :=
  (if t.aim? = some .lane ∨ t.aim? = some .drone then [] else [.secondaryType t.type])
    ++ (if t.reach?.isNone ∧ (t.location.all fun word => word ∉ lanes)
        then [.secondaryLocation t.location] else [])
    ++ comparisonDoubts t.restrictions

def Card.upgradeDefects (c : Card) : List Defect :=
  if c.isUpgrade then
    (if c.slots < 1 then [.tooFewSlots c.id c.slots] else [])
      ++ (if c.maxApplications.any (· < 1) then [.tooFewApplications c.id] else [])
  else []

/-- Defects of a card's extra cost: moving is only for drones. -/
def Card.costDefects (c : Card) : List Defect :=
  match c.extraCost with
  | some cost =>
    if cost.isMovement ∧ cost.targeting.aim? ≠ some .drone then [.movementCostNotDrone c.id]
    else []
  | none => []

/-- Defects of a card's condition: control is of lanes that exist, and of at least one. -/
def Card.conditionDefects (c : Card) (lanes : List LaneId) : List Defect :=
  match c.condition with
  | some condition =>
    if condition.kind? = some .controlLanes then
      (if condition.lanes = [] then [.noLanes c.id] else [])
        ++ (condition.lanes.filter (· ∉ lanes)).map (.unknownLane c.id)
    else []
  | none => []

/-- Defects of a card apart from its id. -/
def Card.defects (c : Card) (lanes : List LaneId) : List Defect :=
  (if c.name = "" then [.emptyCardName c.id] else [])
    ++ c.upgradeDefects ++ c.costDefects ++ c.conditionDefects lanes

def Card.warnings (c : Card) (lanes : List LaneId) : List Warning :=
  (c.targeting.doubts lanes).map (⟨.card c.id, ·⟩)
    ++ (match c.extraCost with
        | some cost => (cost.targeting.doubts lanes).map (⟨.cost c.id, ·⟩)
        | none => [])
    ++ (match c.secondary with
        | some secondary => (secondary.doubts lanes).map (⟨.secondary c.id, ·⟩)
        | none => [])
    ++ (match c.condition with
        | some condition =>
          if condition.kind?.isNone then [⟨.card c.id, .conditionType condition.type⟩] else []
        | none => [])

/-- Defects of a card's id after the given ones. -/
def Card.idDefects (c : Card) (seen : List String) : List Defect :=
  if c.id = "" then [.emptyId] else if c.id ∈ seen then [.duplicateId c.id] else []

/-- Defects of a list of cards after cards with the given ids. -/
def cardDefects (lanes : List LaneId) : List Card → List String → List Defect
  | [], _ => []
  | c :: cs, seen => c.idDefects seen ++ c.defects lanes ++ cardDefects lanes cs (c.id :: seen)

def Ability.defects (a : Ability) : List Defect :=
  if a.name = "" then [.emptyAbilityName] else []

def Ability.warnings (a : Ability) (lanes : List LaneId) : List Warning :=
  (a.targeting.doubts lanes).map (⟨.ability a.name, ·⟩)

def defects (cards : List Card) (abilities : List Ability) (lanes : List LaneId) : List Defect :=
  cardDefects lanes cards [] ++ abilities.flatMap Ability.defects

def warnings (cards : List Card) (abilities : List Ability) (lanes : List LaneId) : List Warning :=
  cards.flatMap (·.warnings lanes) ++ abilities.flatMap (·.warnings lanes)

/-- What is known of a set of definitions after it has been checked. -/
structure Report where
  defects : List Defect
  warnings : List Warning
  deriving DecidableEq, Repr

def Report.valid (r : Report) : Bool := r.defects.isEmpty

def Report.isWritable (r : Report) : Bool := r.defects.all fun defect => defect.message?.isSome

def validate (cards : List Card) (abilities : List Ability)
    (lanes : List LaneId) : Report where
  defects := defects cards abilities lanes
  warnings := warnings cards abilities lanes

inductive CheckFailure where
  /-- The set is invalid, and was to be refused then. -/
  | invalid (defects : List Defect)
  /-- A defect has no wording. -/
  | unwritable
  deriving DecidableEq, Repr

def check (cards : List Card) (abilities : List Ability) (lanes : List LaneId) :
    Except CheckFailure Report :=
  let report := validate cards abilities lanes
  if report.isWritable then .ok report else .error .unwritable

/-- A check that refuses an invalid set. -/
def checkStrictly (cards : List Card) (abilities : List Ability) (lanes : List LaneId) :
    Except CheckFailure Report := do
  let report ← check cards abilities lanes
  if report.valid then pure report else throw (.invalid report.defects)

end DroneTactics
