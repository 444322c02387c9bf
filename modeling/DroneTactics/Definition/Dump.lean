import DroneTactics.Definition.Basic

/-!
Cards and abilities written back as raw data, with every declared field present.
What is written here reads back as the same definition, with its affinities named.
-/

namespace DroneTactics

namespace Value

def texts (xs : List String) : Value := .list (xs.map .str)

def ofText? : Option String → Value
  | some s => .str s
  | none => .null

def ofInt? : Option Int → Value
  | some n => .int n
  | none => .null

def record (fields : List (String × Value)) : Value :=
  .map (fields.map fun (name, v) => (.str name, v))

end Value

def Restriction.toValue : Restriction → Value
  | .tag word => .str word
  | .limit l => .record [
      ("stat", .str l.stat),
      ("comparison", .str l.comparison),
      ("value", .int l.value)]
  | .relation r => .record [
      ("type", .str "STAT_COMPARISON"),
      ("stat", .ofText? r.stat),
      ("comparison", .ofText? r.comparison),
      ("reference", .str r.reference),
      ("reference_stat", .ofText? r.referenceStat)]

def Targeting.toValue (t : Targeting) : Value := .record [
  ("type", .str t.type),
  ("affinity", .str t.affinityWord),
  ("location", .ofText? t.location),
  ("restrictions", .list (t.restrictions.map Restriction.toValue)),
  ("custom", .texts t.custom),
  ("max_targets", .ofInt? t.maxTargets),
  ("affected_filter", .list (t.affectedFilter.map Restriction.toValue))]

def SecondaryTargeting.toValue (t : SecondaryTargeting) : Value := .record [
  ("type", .str t.type),
  ("affinity", .str t.affinity),
  ("location", .ofText? t.location),
  ("restrictions", .list (t.restrictions.map Restriction.toValue))]

def ExtraCost.toValue (c : ExtraCost) : Value := .record [
  ("type", .str c.type),
  ("targeting", c.targeting.toValue),
  ("properties", .texts c.properties)]

def PlayCondition.toValue (c : PlayCondition) : Value := .record [
  ("type", .str c.type),
  ("lanes", .texts c.lanes),
  ("operator", .str c.operator)]

/-- The declared fields of an effect, then the others as they were written. -/
def Effect.toValue (e : Effect) : Value :=
  .map ([
    (.str "type", .str e.type),
    (.str "count", .ofInt? e.count),
    (.str "destination", (e.destination.map Value.map).getD .null),
    (.str "properties", .texts e.properties)] ++ e.extra)

def Ability.toValue (a : Ability) : Value := .record [
  ("name", .str a.name),
  ("type", .str a.type),
  ("description", .str a.description),
  ("targeting", a.targeting.toValue),
  ("effect", (a.effect.map Effect.toValue).getD .null)]

def Card.toValue (c : Card) : Value := .record [
  ("id", .str c.id),
  ("name", .str c.name),
  ("type", .str c.type),
  ("cost", .int c.cost),
  ("description", .str c.description),
  ("slots", .int c.slots),
  ("max_applications", .ofInt? c.maxApplications),
  ("targeting", c.targeting.toValue),
  ("additional_cost", (c.extraCost.map ExtraCost.toValue).getD .null),
  ("secondary_targeting", (c.secondary.map SecondaryTargeting.toValue).getD .null),
  ("condition", (c.condition.map PlayCondition.toValue).getD .null),
  ("effect", (c.effect.map Effect.toValue).getD .null)]

def Definition.toValue : Definition → Value
  | .card c => c.toValue
  | .ability a => a.toValue

end DroneTactics
