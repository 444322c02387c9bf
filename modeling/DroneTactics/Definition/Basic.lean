import DroneTactics.Definition.Vocabulary
import DroneTactics.Document.Value

/-!
Cards and abilities as data. Words that select behaviour are kept as they were
written, so a word that means nothing survives here and is refused where it would
be acted on.
-/

namespace DroneTactics

/-- A limit on one effective value of a drone: `speed GTE 5`. -/
structure StatLimit where
  stat : String
  comparison : String
  value : Int
  deriving DecidableEq, Repr

/-- A relation between a value of the candidate and one of an earlier choice. -/
structure StatRelation where
  stat : Option String := none
  comparison : Option String := none
  reference : String := "PRIMARY_TARGET"
  referenceStat : Option String := none
  deriving DecidableEq, Repr

inductive Restriction where
  | tag (word : String)
  | limit (l : StatLimit)
  | relation (r : StatRelation)
  deriving DecidableEq, Repr

structure Targeting where
  type : String := "NONE"
  /-- The affinity, if one was written. -/
  affinity : Option String := none
  /-- A reach or the id of a lane. -/
  location : Option String := none
  restrictions : List Restriction := []
  /-- More tags, under their older name. -/
  custom : List String := []
  maxTargets : Option Int := none
  /-- What a drone in a targeted lane must meet to be affected. -/
  affectedFilter : List Restriction := []
  deriving DecidableEq, Repr

namespace Targeting

/-- The affinity of a rule that names none. -/
def usualAffinity : String := Affinity.any.name

def affinityWord (t : Targeting) : String := t.affinity.getD usualAffinity

/-- Every demand on a target, wherever it was written. -/
def demands (t : Targeting) : List Restriction :=
  t.restrictions ++ t.custom.map .tag

def aim? (t : Targeting) : Option Aim := Aim.ofName? t.type

end Targeting

/-- A second choice that depends on the first. -/
structure SecondaryTargeting where
  type : String
  affinity : String := "FRIENDLY"
  location : Option String := none
  restrictions : List Restriction := []
  deriving DecidableEq, Repr

def SecondaryTargeting.aim? (t : SecondaryTargeting) : Option Aim := Aim.ofName? t.type

def SecondaryTargeting.reach? (t : SecondaryTargeting) : Option SecondaryReach :=
  t.location.bind SecondaryReach.ofName?

/-- Something to be chosen and paid before the effect. -/
structure ExtraCost where
  type : String
  targeting : Targeting := {}
  properties : List String := []
  deriving DecidableEq, Repr

def ExtraCost.isMovement (c : ExtraCost) : Bool := movementWords.contains c.type

structure PlayCondition where
  type : String
  lanes : List String := []
  operator : String := "ALL"
  deriving DecidableEq, Repr

def PlayCondition.kind? (c : PlayCondition) : Option ConditionKind := ConditionKind.ofName? c.type

/-- What happens once all choices are made. Fields that no choice depends on are
kept as they were written. -/
structure Effect where
  type : String
  count : Option Int := none
  destination : Option Entries := none
  properties : List String := []
  extra : Entries := []
  deriving Repr

def Effect.isMovement (e : Effect) : Bool := movementWords.contains e.type

structure Ability where
  name : String
  type : String := "ACTIVE"
  description : String := ""
  targeting : Targeting := {}
  effect : Option Effect := none
  deriving Repr

structure Card where
  id : String
  name : String
  type : String := "Ordnance"
  cost : Int := 0
  description : String := ""
  /-- How many slots the card takes as an upgrade. -/
  slots : Int := 1
  /-- How often the card may be applied to one drone type as an upgrade. -/
  maxApplications : Option Int := none
  targeting : Targeting := {}
  extraCost : Option ExtraCost := none
  secondary : Option SecondaryTargeting := none
  condition : Option PlayCondition := none
  effect : Option Effect := none
  deriving Repr

/-- The card is attached to a drone type. -/
def Card.isUpgrade (c : Card) : Bool := c.type = "Upgrade"

inductive Definition where
  | card (c : Card)
  | ability (a : Ability)
  deriving Repr

namespace Definition

def targeting : Definition → Targeting
  | .card c => c.targeting
  | .ability a => a.targeting

def effect : Definition → Option Effect
  | .card c => c.effect
  | .ability a => a.effect

def extraCost : Definition → Option ExtraCost
  | .card c => c.extraCost
  | .ability _ => none

def isUpgrade : Definition → Bool
  | .card c => c.isUpgrade
  | .ability _ => false

end Definition

end DroneTactics
