import DroneTactics.Board.Lane
import DroneTactics.Yaml.Reader

/-!
The constants of the rules. They are tuned in a data file and taken as they are
written there; a constant of the wrong kind does harm only where it is reckoned
with: a request about a game may then have no answer. Other odd data only yields fewer
targets.
-/

namespace DroneTactics

inductive Fault where
  /-- A constant of the rules is reckoned with and is no number. -/
  | notANumber
  /-- A constant of the rules is too large for a sum with a fraction. -/
  | outOfRange
  /-- A drone is asked for a keyword that is a collection. -/
  | notAKeyword
  /-- A card is asked for and an ability is given. -/
  | notACard
  /-- The acting player's board is needed and does not exist. -/
  | noBoard
  deriving DecidableEq, Repr

structure Rules where
  lanes : List LaneId := standardLanes
  /-- How often an upgrade that does not say may be applied to one drone type. -/
  maxApplications : Value := .int 1
  /-- How many slots an upgrade of no stated size takes. -/
  slotCost : Value := .int 1
  /-- The keyword of drones that never move. -/
  inertKeyword : Value := .str "INERT"
  deriving Inhabited

inductive RulesFailure where
  | unread (failure : Yaml.Failure)
  /-- The lanes cannot be gone through one by one. -/
  | notListed
  /-- The name of a lane holds an integer that is too long to be written. -/
  | unwritable
  deriving DecidableEq, Repr

namespace Rules

/-- Whether the inert keyword can be looked for; of the collections only a set can. -/
def hasInertKeyword (r : Rules) : Bool :=
  match r.inertKeyword with
  | .atom _ => true
  | .worded .set _ _ => true
  | _ => false

def inert (r : Rules) (keywords : List String) : Bool :=
  match r.inertKeyword with
  | .str word => keywords.contains word
  | _ => false

/-- The names of the lanes a value lists. A value that lists nothing stands for the
standard lanes. -/
def lanesOf (v : Value) : Except RulesFailure (List LaneId) :=
  if v.isBlank then .ok standardLanes
  else match v.elements? with
    | none => .error .notListed
    | some vs =>
      match vs.mapM Value.text? with
      | none => .error .unwritable
      | some lanes => .ok lanes

def ofEntries (entries : Entries) : Except RulesFailure Rules :=
  let usual : Rules := {}
  (lanesOf ((entries.named? "lane_ids").getD .null)).map fun lanes =>
    { lanes
      maxApplications := (entries.named? "default_max_applications").getD usual.maxApplications
      slotCost := (entries.named? "default_upgrade_slot_cost").getD usual.slotCost
      inertKeyword := (entries.named? "inert_keyword").getD usual.inertKeyword }

/-- The rules a data file states. A file that holds no map states nothing. -/
def ofValue (v : Value) : Except RulesFailure Rules :=
  match v.bare with
  | .map entries => ofEntries entries
  | _ => .ok {}

/-- The rules in the text of a data file. A file that does not exist states nothing. -/
def ofText : Option String → Except RulesFailure Rules
  | none => .ok {}
  | some text =>
    match Yaml.read text with
    | .error failure => .error (.unread failure)
    | .ok v => ofValue v

end Rules

end DroneTactics
