import DroneTactics.Definition.Load
import DroneTactics.Proofs.Definition.Written
import DroneTactics.Proofs.Targeting.Mobility

/-!
Reading undoes writing. Whatever was read can be written and read again, and the second
definition is the first one with its affinities written. So it is written in the same way, has
the same restrictions and the same effect, and if the affinity was given at first it is for the
same targets in every situation.
-/

namespace DroneTactics

open Decoded

def Value.member? (v : Value) (name : String) : Option Value :=
  match v.bare with
  | .map es => Entries.named? es name
  | _ => none

theorem Value.member?_of_bare {v : Value} {es : Entries} (bare : v.bare = .map es)
    (name : String) : v.member? name = es.named? name := by
  rw [member?, bare]

/-! ### What was read -/

theorem EntryKind.judge_eq_ok_iff {α : Type} {kind : EntryKind} {v : Value} {read : Decoded α}
    {a : α} : kind.judge v read = .ok a ↔ read = .ok a := by
  cases read with
  | ok b => simp [judge]
  | failed problems =>
      unfold judge
      cases kind.label? v <;> exact iff_of_false nofun nofun

theorem Card.parse_eq_ok_iff {v : Value} {c : Card} : parse v = .ok c ↔ ofValue v = .ok c :=
  EntryKind.judge_eq_ok_iff

theorem Ability.parse_eq_ok_iff {v : Value} {a : Ability} :
    parse v = .ok a ↔ ofValue v = .ok a :=
  EntryKind.judge_eq_ok_iff

namespace Definition

variable {kind : EntryKind} {raw : Value} {d : Definition}

/-- A definition is read as a card or as an ability, as its entry is one or the other. -/
theorem parse_eq_ok_iff : parse kind raw = .ok d ↔
    (∃ c, kind = .card ∧ d = .card c ∧ Card.ofValue raw = .ok c) ∨
      ∃ a, kind = .ability ∧ d = .ability a ∧ Ability.ofValue raw = .ok a := by
  simp only [← Card.parse_eq_ok_iff, ← Ability.parse_eq_ok_iff]
  cases kind with
  | card => cases read : Card.parse raw <;> simp [parse, read, Except.map, eq_comm]
  | ability => cases read : Ability.parse raw <;> simp [parse, read, Except.map, eq_comm]

/-- Of what was read as a definition the rule and the effect were read from their fields. -/
theorem exists_fields (read : parse kind raw = .ok d) : ∃ es, raw.bare = .map es ∧
    fieldOr es "targeting" {} Targeting.ofValue = .ok d.targeting ∧
      fieldOr es "effect" none (optional Effect.ofValue) = .ok d.effect := by
  rcases parse_eq_ok_iff.1 read with ⟨c, -, rfl, card⟩ | ⟨a, -, rfl, ability⟩
  · obtain ⟨es, bare, -, -, -, -, -, -, -, targeting, -, -, -, effect⟩ :=
      Card.ofValue_eq_ok_iff.1 card
    exact ⟨es, bare, targeting, effect⟩
  · obtain ⟨es, bare, -, -, -, targeting, effect⟩ := Ability.ofValue_eq_ok_iff.1 ability
    exact ⟨es, bare, targeting, effect⟩

/-- The effect that is read is what its entry is read as. -/
theorem exists_effect (read : parse kind raw = .ok d) {v : Value} {entries : Entries}
    (held : raw.member? "effect" = some v) (bare : v.bare = .map entries) :
    ∃ e, d.effect = some e ∧ Effect.ofValue v = .ok e := by
  obtain ⟨es, whole, -, effect⟩ := exists_fields read
  rw [Value.member?_of_bare whole] at held
  have given : v ≠ .null := by
    rintro rfl
    cases bare
  rw [fieldOr_of_named? held, within_eq_ok_iff, optional_of_ne_null given, map_eq_ok_iff] at effect
  obtain ⟨e, readEffect, here⟩ := effect
  exact ⟨e, here.symm, readEffect⟩

theorem plain_effect (read : parse kind raw = .ok d) {e : Effect} (here : d.effect = some e) :
    e.Plain := by
  obtain ⟨es, -, -, effect⟩ := exists_fields read
  rw [here, fieldOr_eq_ok_iff] at effect
  obtain ⟨v, -, readEffect⟩ := effect.resolve_right nofun
  exact Effect.plain_of_ofValue (optional_eq_some_iff.1 readEffect).2

/-- An affinity that was written is on record. -/
theorem isSome_affinity (read : parse kind raw = .ok d) {rule w : Value}
    (held : raw.member? "targeting" = some rule) (written : rule.member? "affinity" = some w) :
    d.targeting.affinity.isSome = true := by
  obtain ⟨es, whole, targeting, -⟩ := exists_fields read
  rw [Value.member?_of_bare whole] at held
  rw [fieldOr_of_named? held, within_eq_ok_iff] at targeting
  obtain ⟨ts, ruleBare, -, affinity, -⟩ := Targeting.ofValue_eq_ok_iff.1 targeting
  rw [Value.member?_of_bare ruleBare] at written
  rw [fieldOr_of_named? written, within_eq_ok_iff, map_eq_ok_iff] at affinity
  obtain ⟨word, -, here⟩ := affinity
  rw [← here, Option.isSome_some]

/-- What is written of a definition reads as that definition with its affinities written. -/
theorem parse_toValue (read : parse kind raw = .ok d) : parse kind d.toValue = .ok d.named := by
  have plain : ∀ e, d.effect = some e → e.Plain := fun _ here => plain_effect read here
  rcases parse_eq_ok_iff.1 read with ⟨c, rfl, rfl, -⟩ | ⟨a, rfl, rfl, -⟩
  · exact parse_eq_ok_iff.2 (.inl ⟨c.named, rfl, rfl, Card.ofValue_toValue plain⟩)
  · exact parse_eq_ok_iff.2 (.inr ⟨a.named, rfl, rfl, Ability.ofValue_toValue plain⟩)

/-! ### What stays -/

def restrictions : Definition → List Restriction
  | .card c => c.targeting.restrictions ++ c.targeting.affectedFilter ++
      c.extraCost.toList.flatMap (fun cost =>
        cost.targeting.restrictions ++ cost.targeting.affectedFilter) ++
      c.secondary.toList.flatMap SecondaryTargeting.restrictions
  | .ability a => a.targeting.restrictions ++ a.targeting.affectedFilter

@[simp] theorem toValue_named (d : Definition) : d.named.toValue = d.toValue := by
  cases d with
  | card c =>
      simp only [named, toValue, Card.named, Card.toValue, Option.map_map]
      rfl
  | ability a => rfl

@[simp] theorem effect_named (d : Definition) : d.named.effect = d.effect := by
  cases d <;> rfl

@[simp] theorem restrictions_named (d : Definition) : d.named.restrictions = d.restrictions := by
  cases d with
  | card c =>
      cases cost : c.extraCost with
      | none => simp only [named, restrictions, Card.named, cost]; rfl
      | some extra => simp only [named, restrictions, Card.named, cost]; rfl
  | ability a => rfl

theorem targeting_named (written : d.targeting.affinity.isSome = true) :
    d.named.targeting = d.targeting := by
  obtain ⟨word, here⟩ := Option.isSome_iff_exists.1 written
  have same : d.targeting.named = d.targeting := by
    rw [Targeting.named, Targeting.affinityWord, here, Option.getD_some, ← here]
  cases d <;> exact same

/-- With its affinity written a definition is for the same targets as before. -/
theorem targets_named (written : d.targeting.affinity.isSome = true) (r : Referee)
    (s : Situation) : r.targets (s.playedAs d.named) = r.targets (s.playedAs d) := by
  have upgrade : (s.playedAs d.named).definition.isUpgrade =
      (s.playedAs d).definition.isUpgrade := by
    cases d <;> rfl
  have slots : (s.playedAs d.named).slotTargets r.rules = (s.playedAs d).slotTargets r.rules := by
    cases d <;> rfl
  have rule : (s.playedAs d.named).definition.targeting = (s.playedAs d).definition.targeting :=
    targeting_named written
  have found : r.ruleTargets d.targeting (s.playedAs d.named) =
      r.ruleTargets d.targeting (s.playedAs d) := by
    unfold Referee.ruleTargets
    cases d.targeting.aim? with
    | none => rfl
    | some aim =>
        cases aim with
        | droneType => simp only [Situation.targetsFor, slots]
        | _ => rfl
  rw [Referee.targets, Referee.targets, upgrade, slots, rule]
  exact ite_congr rfl (fun _ => rfl) fun _ => found

end Definition

/-- Reading undoes writing. What is written of a definition that was read is read again, and then
the definition is written in the same way and has the same restrictions, each of its own kind,
and the same effect, with every field that was in the effect at first and that it does not
declare. If an affinity was given at first, the same things are targets in every situation. As
for the kinds of restriction, a limit needs a value and a relation has none, so that nothing is
read as either of them. -/
theorem reading_undoes_writing {kind : EntryKind} {raw : Value} {d : Definition}
    (read : Definition.parse kind raw = .ok d) :
    (∃ again, Definition.parse kind d.toValue = .ok again ∧ again.toValue = d.toValue ∧
      again.restrictions = d.restrictions ∧ again.effect = d.effect ∧
      (∀ v entries, raw.member? "effect" = some v → v.bare = .map entries →
        ∃ e, again.effect = some e ∧ ∀ entry ∈ entries,
          (∀ name ∈ Effect.declared, entry.1 ≠ .str name) → entry ∈ e.extra) ∧
      ∀ rule word, raw.member? "targeting" = some rule → rule.member? "affinity" = some word →
        ∀ (r : Referee) (s : Situation),
          r.targets (s.playedAs again) = r.targets (s.playedAs d)) ∧
    ∀ es : Entries,
      ((∃ l, StatLimit.ofEntries es = .ok l) → (es.named? "value").isSome = true) ∧
      ((∃ rel, StatRelation.ofEntries es = .ok rel) → es.named? "value" = none) ∧
      ¬((∃ l, StatLimit.ofEntries es = .ok l) ∧ ∃ rel, StatRelation.ofEntries es = .ok rel) := by
  refine ⟨⟨d.named, Definition.parse_toValue read, d.toValue_named, d.restrictions_named,
    d.effect_named, ?_, ?_⟩, ?_⟩
  · intro v entries held bare
    obtain ⟨e, here, readEffect⟩ := Definition.exists_effect read held bare
    exact ⟨e, d.effect_named.trans here, Effect.mem_extra_of_ofValue readEffect bare⟩
  · intro rule word held written
    exact Definition.targets_named (Definition.isSome_affinity read held written)
  · intro es
    refine ⟨?_, ?_, ?_⟩
    · rintro ⟨l, limit⟩
      exact StatLimit.isSome_value limit
    · rintro ⟨rel, relation⟩
      exact StatRelation.value_eq_none relation
    · rintro ⟨⟨l, limit⟩, rel, relation⟩
      have value := StatLimit.isSome_value limit
      simp [StatRelation.value_eq_none relation] at value

/-! ### A card whose numbers are not written as integers -/

/-- An entry whose numbers are not written as integers, with a tag and both filters. -/
def volleyEntry : Value := .record [
  ("id", .str "VOLLEY"),
  ("name", .str "Volley"),
  ("cost", .bool true),
  ("slots", .str "2"),
  ("targeting", .record [
    ("type", .str "DRONE"),
    ("affinity", .str "ENEMY"),
    ("restrictions", .list [
      .str "EXHAUSTED",
      .record [("stat", .str "attack"), ("comparison", .str "GTE"), ("value", .str "3")]])]),
  ("secondary_targeting", .record [
    ("type", .str "LANE"),
    ("restrictions", .list [.record [("stat", .str "attack"), ("comparison", .str "LT")]])]),
  ("effect", .record [("type", .str "DAMAGE"), ("value", .int 2)])]

def volley : Card where
  id := "VOLLEY"
  name := "Volley"
  cost := 1
  slots := 2
  targeting :=
    { type := "DRONE"
      affinity := some "ENEMY"
      restrictions :=
        [.tag "EXHAUSTED", .limit { stat := "attack", comparison := "GTE", value := 3 }] }
  secondary := some
    { type := "LANE"
      restrictions := [.relation { stat := some "attack", comparison := some "LT" }] }
  effect := some { type := "DAMAGE", extra := [(.str "value", .int 2)] }

/-- The volley is written and read again. It has its restrictions, the value of its effect and
its one target in the skirmish as before. -/
theorem volley_reads_again :
    Definition.parse .card volleyEntry = .ok (.card volley) ∧
      ∃ again, Definition.parse .card volley.toValue = .ok again ∧
        again.toValue = volley.toValue ∧
        again.restrictions =
          [.tag "EXHAUSTED", .limit { stat := "attack", comparison := "GTE", value := 3 },
            .relation { stat := some "attack", comparison := some "LT" }] ∧
        (∃ e, again.effect = some e ∧ (.str "value", .int 2) ∈ e.extra) ∧
        Referee.targets {} (skirmish again) = .ok [.ofDrone bomber "player2" "lane2"] := by
  have read : Definition.parse .card volleyEntry = .ok (.card volley) := rfl
  obtain ⟨again, readAgain, written, restrictions, -, effect, targets⟩ :=
    (reading_undoes_writing read).1
  obtain ⟨e, here, kept⟩ := effect _ _ rfl rfl
  have extra : (.str "value", .int 2) ∈ e.extra :=
    kept _ (.tail _ (.head _)) (by decide)
  have found : Referee.targets {} (skirmish (.card volley)) =
      .ok [.ofDrone bomber "player2" "lane2"] := rfl
  have same := targets _ _ rfl rfl {} (skirmish (.card volley))
  exact ⟨read, again, readAgain, written, restrictions, ⟨e, here, extra⟩, same.trans found⟩

end DroneTactics
