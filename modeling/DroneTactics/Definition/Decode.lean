import DroneTactics.Definition.Basic
import DroneTactics.Definition.Integer

/-!
Cards and abilities read from raw data. Fields are read in the order in which they
are declared, each with all problems of its parts; a field that is missing takes
its usual value, or is a problem when it has none. Most models ignore fields they
do not know. The two filters refuse them, and an effect keeps them; these three mind
every key.
-/

namespace DroneTactics

namespace Decoded

variable {α : Type}

/-- A text, or bytes that encode one. -/
def text : Value → Decoded String
  | .str s => .ok s
  | .atom (.bytes bs) =>
    match Text.decoded? bs with
    | some s => .ok s
    | none => fail .notUnicode
  | _ => fail .notText

def optional (read : Value → Decoded α) : Value → Decoded (Option α)
  | .null => .ok none
  | v => some <$> read v

def list (read : Value → Decoded α) (v : Value) : Decoded (List α) :=
  match v.bare with
  | .list vs => traverse read 0 vs
  | _ => fail .notList

def model (name : String) (read : Entries → Decoded α) (v : Value) : Decoded α :=
  match v.bare with
  | .map entries => read entries
  | _ => fail (.notModel name)

def field (entries : Entries) (name : String) (read : Value → Decoded α) : Decoded α :=
  match entries.named? name with
  | some v => (read v).within (.name name)
  | none => .failed [⟨[.name name], .missing⟩]

def fieldOr (entries : Entries) (name : String) (usual : α) (read : Value → Decoded α) :
    Decoded α :=
  match entries.named? name with
  | some v => (read v).within (.name name)
  | none => .ok usual

end Decoded

/-- A key as a step: an integer of ordinary size by its number, another one by its text. -/
def Atom.step : Atom → Step
  | .str s => .name s
  | .bool b => .number (if b then 1 else 0)
  | .int n => if -Decoded.integerLimit ≤ n ∧ n < Decoded.integerLimit then .number n
    else .name ((Text.ofInt? n).getD "<unprintable int object>")
  | a => .name (a.literal?.getD "")

/-- A key is a text that holds a half that stands alone. -/
def Atom.holdsHalf : Atom → Bool
  | .str s => Text.holdsHalf s
  | _ => false

inductive Unknown where
  | refuse
  | keep

def Entries.keyProblems (entries : Entries) (declared : List String) (policy : Unknown) :
    List Problem :=
  entries.filterMap fun (key, _) =>
    match key, policy with
    | .str s, .refuse =>
      if declared.contains s then none else some ⟨[.name s], .unknownField⟩
    | .str _, .keep => none
    | a, _ => some ⟨[a.step], .keyNotText⟩

def Entries.undeclared (entries : Entries) (declared : List String) : Entries :=
  entries.filter fun (key, _) =>
    match key with
    | .str s => !declared.contains s
    | _ => false

/-- What a model that minds its keys reads. Of a key that holds a half that stands alone
nothing is known, and then nothing else is reported. -/
def Entries.minded {α : Type} (entries : Entries) (declared : List String) (policy : Unknown)
    (read : Decoded α) : Decoded α :=
  if entries.any fun (key, _) => key.holdsHalf then Decoded.fail .notUnicode
  else read.also (entries.keyProblems declared policy)

open Decoded

def StatLimit.ofEntries (es : Entries) : Decoded StatLimit :=
  es.minded ["stat", "comparison", "value"] .refuse <|
    StatLimit.mk <$> field es "stat" text
      <*> field es "comparison" text
      <*> field es "value" integer

def StatRelation.typeWord : String := "STAT_COMPARISON"

def StatRelation.checkType : Value → Decoded Unit
  | .str s =>
    if s = typeWord then .ok ()
    else if Text.holdsHalf s then fail .notUnicode
    else fail (.notWord typeWord)
  | _ => fail (.notWord typeWord)

def StatRelation.ofEntries (es : Entries) : Decoded StatRelation :=
  es.minded ["type", "stat", "comparison", "reference", "reference_stat"] .refuse <|
    (fun () stat comparison reference referenceStat =>
        StatRelation.mk stat comparison reference referenceStat)
      <$> fieldOr es "type" () checkType
      <*> fieldOr es "stat" none (optional text)
      <*> fieldOr es "comparison" none (optional text)
      <*> fieldOr es "reference" "PRIMARY_TARGET" text
      <*> fieldOr es "reference_stat" none (optional text)

/-- A restriction is a tag, a limit or a relation. When it is none of them, the
problems of all three are reported. -/
def Restriction.ofValue (v : Value) : Decoded Restriction :=
  match text v, model "StatFilter" StatLimit.ofEntries v,
      model "RelationalStatFilter" StatRelation.ofEntries v with
  | .ok word, _, _ => .ok (.tag word)
  | _, .ok l, _ => .ok (.limit l)
  | _, _, .ok r => .ok (.relation r)
  | asTag, asLimit, asRelation => .failed <|
    (asTag.within (.name "str")).problems
      ++ (asLimit.within (.name "StatFilter")).problems
      ++ (asRelation.within (.name "RelationalStatFilter")).problems

def Targeting.ofValue : Value → Decoded Targeting :=
  model "Targeting" fun es =>
    Targeting.mk <$> fieldOr es "type" "NONE" text
      <*> fieldOr es "affinity" none (fun v => some <$> text v)
      <*> fieldOr es "location" none (optional text)
      <*> fieldOr es "restrictions" [] (list Restriction.ofValue)
      <*> fieldOr es "custom" [] (list text)
      <*> fieldOr es "max_targets" none (optional integer)
      <*> fieldOr es "affected_filter" [] (list Restriction.ofValue)

def SecondaryTargeting.ofValue : Value → Decoded SecondaryTargeting :=
  model "SecondaryTargeting" fun es =>
    SecondaryTargeting.mk <$> field es "type" text
      <*> fieldOr es "affinity" "FRIENDLY" text
      <*> fieldOr es "location" none (optional text)
      <*> fieldOr es "restrictions" [] (list Restriction.ofValue)

def ExtraCost.ofValue : Value → Decoded ExtraCost :=
  model "AdditionalCost" fun es =>
    ExtraCost.mk <$> field es "type" text
      <*> fieldOr es "targeting" {} Targeting.ofValue
      <*> fieldOr es "properties" [] (list text)

def PlayCondition.ofValue : Value → Decoded PlayCondition :=
  model "PlayCondition" fun es =>
    PlayCondition.mk <$> field es "type" text
      <*> fieldOr es "lanes" [] (list text)
      <*> fieldOr es "operator" "ALL" text

def Effect.namedEntry (entry : Atom × Value) : Decoded (Atom × Value) :=
  match entry with
  | (.str name, v) => .ok (.str name, v)
  | (key, v) =>
    (((text (.atom key)).within (.name "[key]")).within key.step).map fun name => (.str name, v)

def Effect.namedEntries (v : Value) : Decoded Entries :=
  match v.bare with
  | .map es =>
    es.foldr (fun entry rest => List.cons <$> namedEntry entry <*> rest) (pure [])
  | _ => fail .notMap

/-- The fields of an effect that choices depend on. -/
def Effect.declared : List String := ["type", "count", "destination", "properties"]

def Effect.ofValue : Value → Decoded Effect :=
  model "EffectSpec" fun es =>
    es.minded declared .keep <|
      Effect.mk <$> field es "type" text
        <*> fieldOr es "count" none (optional integer)
        <*> fieldOr es "destination" none (optional namedEntries)
        <*> fieldOr es "properties" [] (list text)
        <*> pure (es.undeclared declared)

def Ability.ofValue : Value → Decoded Ability :=
  model "AbilityDefinition" fun es =>
    Ability.mk <$> field es "name" text
      <*> fieldOr es "type" "ACTIVE" text
      <*> fieldOr es "description" "" text
      <*> fieldOr es "targeting" {} Targeting.ofValue
      <*> fieldOr es "effect" none (optional Effect.ofValue)

def Card.ofValue : Value → Decoded Card :=
  model "CardDefinition" fun es =>
    Card.mk <$> field es "id" text
      <*> field es "name" text
      <*> fieldOr es "type" "Ordnance" text
      <*> fieldOr es "cost" 0 integer
      <*> fieldOr es "description" "" text
      <*> fieldOr es "slots" 1 integer
      <*> fieldOr es "max_applications" none (optional integer)
      <*> fieldOr es "targeting" {} Targeting.ofValue
      <*> fieldOr es "additional_cost" none (optional ExtraCost.ofValue)
      <*> fieldOr es "secondary_targeting" none (optional SecondaryTargeting.ofValue)
      <*> fieldOr es "condition" none (optional PlayCondition.ofValue)
      <*> fieldOr es "effect" none (optional Effect.ofValue)

end DroneTactics
