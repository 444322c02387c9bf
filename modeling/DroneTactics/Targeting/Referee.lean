import DroneTactics.Targeting.Offer

/-!
The referee says what may be targeted. It knows the rules and which aims are in
play; a rule with any other aim, or with a word that means nothing, has no targets.
-/

namespace DroneTactics

structure Referee where
  rules : Rules := {}
  aims : List Aim := Aim.all

namespace Referee

def ruleTargets (r : Referee) (t : Targeting) (s : Situation) : Except Fault (List Target) :=
  match t.aim? with
  | some aim => if aim ∈ r.aims then s.targetsFor r.rules t aim else pure []
  | none => pure []

/-- The targets of the definition in play. An upgrade card goes on a drone type,
whatever its targeting rule says. -/
def targets (r : Referee) (s : Situation) : Except Fault (List Target) :=
  if s.definition.isUpgrade then s.slotTargets r.rules
  else r.ruleTargets s.definition.targeting s

def canPayByMoving (r : Referee) (s : Situation) (t : Target) : Bool :=
  match t.entity, t.lane with
  | some (.drone d), some lane => s.canMove r.rules d lane t.owner
  | _, _ => true

def costTargets (r : Referee) (s : Situation) : Except Fault (List Target) :=
  match s.definition.extraCost with
  | none => pure []
  | some cost => do
    let offers ← r.ruleTargets cost.targeting s
    if cost.isMovement then
      r.rules.askToMove (offers.filterMap Target.drone?)
      pure (offers.filter (r.canPayByMoving s))
    else pure offers

/-- The targets of the definition in play once a cost is chosen. They are found on
the boards that paying it leaves. -/
def targetsAfter (r : Referee) (s : Situation) (payment : Option Payment) :
    Except Fault (List Target) :=
  r.targets (s.afterPaying payment)

end Referee

def Situation.targets (s : Situation) : Except Fault (List Target) := Referee.targets {} s

end DroneTactics
