import DroneTactics.Board.Basic
import DroneTactics.Comparison

/-!
Effective values of a drone. How modifiers change a drone's values is not decided
here: a stat model is given from outside and answers for a drone in a lane. What
it leaves open, and every name it does not know, is read off the drone itself.
-/

namespace DroneTactics

/-- What a name can stand for on a drone: a single value, or its set of keywords. Some names
of no use in card data stand for what all drones share, or for what is each drone's own. -/
inductive StatValue where
  | single (a : Atom)
  | keywords (names : List String)
  | shared (name : String)
  | own (name : String) (d : Drone)
  deriving DecidableEq, Repr

/-- Keywords are a set, in which neither order nor repetition counts. -/
def sameKeywords (k l : List String) : Bool := k.all l.contains && l.all k.contains

def Drone.alike (d e : Drone) : Bool :=
  { d with keywords := [] } = { e with keywords := [] } && sameKeywords d.keywords e.keywords

namespace StatValue

def same : StatValue → StatValue → Bool
  | .single a, .single b => a.same b
  | .keywords k, .keywords l => sameKeywords k l
  | .shared m, .shared n => m = n
  | .own m d, .own n e => m = n && d.alike e
  | _, _ => false

/-- What all drones share under this name is a list and so has an order. -/
def sharedList : String := "__match_args__"

/-- The order of what two names stand for: sets are ordered by inclusion. -/
def order? : StatValue → StatValue → Option Ordering
  | .single a, .single b => a.order? b
  | .keywords k, .keywords l =>
    match k.all l.contains, l.all k.contains with
    | true, true => some .eq
    | true, false => some .lt
    | false, true => some .gt
    | false, false => none
  | .shared m, .shared n => if m = sharedList ∧ n = sharedList then some .eq else none
  | _, _ => none

def compareByName (word : String) (left right : StatValue) : Bool :=
  match Comparison.ofName? word with
  | some c => c.holds (left.same right) (left.order? right)
  | none => false

end StatValue

/-- The values of a drone after all modifiers; one may be left open. -/
structure StatSheet where
  attack : Option Int
  speed : Option Int
  hull : Option Int
  shields : Option Int
  keywords : List String
  deriving DecidableEq, Repr

def StatSheet.get? (sheet : StatSheet) : String → Option Int
  | "attack" => sheet.attack
  | "speed" => sheet.speed
  | "hull" => sheet.hull
  | "shields" => sheet.shields
  | _ => none

structure StatSetting where
  owner : PlayerId
  field : Battlefield

abbrev StatModel := Drone → LaneId → StatSetting → StatSheet

def Drone.baseStats (d : Drone) : StatSheet where
  attack := d.attack
  speed := d.speed
  hull := d.hull
  shields := d.shields
  keywords := d.keywords

def StatModel.base : StatModel := fun d _ _ => d.baseStats

def Drone.description : String :=
  "\n    A drone deployed on a lane.\n\n" ++
  "    Stats here are base stats. Effective stats (buffs, auras, debuffs)\n" ++
  "    come from the injected StatsCalculator.\n    "

def Drone.sharedNames : List String :=
  ["__annotations__", "__class__", "__dataclass_fields__", "__dataclass_params__",
    "__init_subclass__", StatValue.sharedList, "__new__", "__subclasshook__"]

def Drone.ownNames : List String :=
  ["__delattr__", "__dict__", "__dir__", "__eq__", "__format__", "__ge__", "__getattribute__",
    "__getstate__", "__gt__", "__hash__", "__init__", "__le__", "__lt__", "__ne__", "__reduce__",
    "__reduce_ex__", "__repr__", "__setattr__", "__sizeof__", "__str__"]

/-- What a name stands for on the drone itself. -/
def Drone.attribute? (d : Drone) : String → Option StatValue
  | "id" => some (.single (.str d.id))
  | "name" => some (.single (.str d.name))
  | "attack" => some (.single (.int d.attack))
  | "speed" => some (.single (.int d.speed))
  | "hull" => some (.single (.int d.hull))
  | "max_hull" => d.maxHull.map fun n => .single (.int n)
  | "shields" => some (.single (.int d.shields))
  | "is_exhausted" => some (.single (.bool d.exhausted))
  | "is_marked" => some (.single (.bool d.marked))
  | "is_snared" => some (.single (.bool d.snared))
  | "is_damaged" => some (.single (.bool d.damaged))
  | "keywords" => some (.keywords d.keywords)
  | "__doc__" => some (.single (.str description))
  | "__module__" => some (.single (.str "dronewars.engine_core.state"))
  | name =>
    if name ∈ sharedNames then some (.shared name)
    else if name ∈ ownNames then some (.own name d)
    else none

namespace StatModel

/-- What a name stands for on a drone after all modifiers. -/
def value? (model : StatModel) (d : Drone) (lane : LaneId) (setting : StatSetting)
    (name : String) : Option StatValue :=
  match (model d lane setting).get? name with
  | some n => some (.single (.int n))
  | none => d.attribute? name

def keywords (model : StatModel) (d : Drone) (lane : LaneId) (setting : StatSetting) :
    List String :=
  (model d lane setting).keywords

end StatModel

end DroneTactics
