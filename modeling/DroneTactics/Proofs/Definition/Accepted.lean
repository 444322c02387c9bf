import DroneTactics.Definition.Decode

/-!
What a reading that succeeds is made of. Something put together from parts is read exactly when
each part is, so a definition is read exactly when each of its fields is, with the field's usual
value if it is missing, and no field is in the way.
-/

namespace DroneTactics

namespace Decoded

variable {α β : Type} {x : Decoded α} {a : α} {b : β}

theorem map_eq_ok_iff {f : α → β} : f <$> x = .ok b ↔ ∃ a, x = .ok a ∧ f a = b := by
  cases x with
  | ok a =>
      constructor
      · exact fun same => ⟨a, rfl, ok.inj same⟩
      · rintro ⟨_, ⟨rfl⟩, rfl⟩
        rfl
  | failed problems => exact iff_of_false nofun nofun

theorem seq_eq_ok_iff {f : Decoded (α → β)} :
    f <*> x = .ok b ↔ ∃ g a, f = .ok g ∧ x = .ok a ∧ g a = b := by
  cases f with
  | failed problems => cases x <;> exact iff_of_false nofun nofun
  | ok g =>
      cases x with
      | failed problems => exact iff_of_false nofun nofun
      | ok a =>
          constructor
          · exact fun same => ⟨g, a, rfl, rfl, ok.inj same⟩
          · rintro ⟨_, _, ⟨rfl⟩, ⟨rfl⟩, rfl⟩
            rfl

@[simp] theorem within_eq_ok_iff {step : Step} : x.within step = .ok a ↔ x = .ok a := by
  cases x <;> simp [within]

@[simp] theorem also_eq_ok_iff {more : List Problem} :
    x.also more = .ok a ↔ x = .ok a ∧ more = [] := by
  cases more <;> simp [also]

theorem model_eq_ok_iff {name : String} {read : Entries → Decoded α} {v : Value} :
    model name read v = .ok a ↔ ∃ es, v.bare = .map es ∧ read es = .ok a := by
  unfold model
  split
  case h_1 es bare =>
      exact ⟨fun given => ⟨es, bare, given⟩, fun ⟨_, same, given⟩ => by
        cases bare.symm.trans same
        exact given⟩
  case h_2 other => exact iff_of_false nofun fun ⟨es, bare, _⟩ => other es bare

section

variable {es : Entries} {name : String} {usual : β} {read : Value → Decoded β}

theorem field_eq_ok_iff :
    field es name read = .ok b ↔ ∃ v, es.named? name = some v ∧ read v = .ok b := by
  cases found : es.named? name with
  | none => simp [field, found]
  | some v => simp [field, found]

theorem fieldOr_of_named? {v : Value} (found : es.named? name = some v) :
    fieldOr es name usual read = (read v).within (.name name) := by
  rw [fieldOr, found]

theorem fieldOr_eq_ok_iff : fieldOr es name usual read = .ok b ↔
    (∃ v, es.named? name = some v ∧ read v = .ok b) ∨ es.named? name = none ∧ usual = b := by
  cases found : es.named? name with
  | none => simp [fieldOr, found]
  | some v => simp [fieldOr, found]

theorem optional_of_ne_null {v : Value} (given : v ≠ .null) :
    optional read v = some <$> read v := by
  unfold optional
  split
  · exact absurd rfl given
  · rfl

theorem optional_eq_some_iff {v : Value} :
    optional read v = .ok (some b) ↔ v ≠ .null ∧ read v = .ok b := by
  by_cases null : v = .null
  · subst null
    exact iff_of_false nofun fun given => given.1 rfl
  · rw [optional_of_ne_null null, map_eq_ok_iff]
    simp [null]

end

end Decoded

open Decoded

/-- Nothing is wrong with the keys of entries for a model that minds them. -/
structure Entries.KeysFit (es : Entries) (declared : List String) (policy : Unknown) : Prop where
  whole : ∀ entry ∈ es, entry.1.holdsHalf = false
  known : es.keyProblems declared policy = []

theorem Entries.minded_eq_ok_iff {α : Type} {es : Entries} {declared : List String}
    {policy : Unknown} {read : Decoded α} {a : α} :
    es.minded declared policy read = .ok a ↔ read = .ok a ∧ es.KeysFit declared policy := by
  unfold minded
  split
  case isTrue half =>
      obtain ⟨entry, mem, half⟩ := List.any_eq_true.1 half
      exact iff_of_false nofun fun ⟨_, fit⟩ => by simp [fit.whole entry mem] at half
  case isFalse whole =>
      rw [also_eq_ok_iff]
      refine and_congr_right fun _ => ⟨fun known => ⟨fun entry mem => ?_, known⟩, KeysFit.known⟩
      exact Bool.eq_false_iff.2 fun half => whole (List.any_eq_true.2 ⟨entry, mem, half⟩)

/-- A limit is read when each of its fields is and there are no others. -/
theorem StatLimit.ofEntries_eq_ok_iff {es : Entries} {l : StatLimit} : ofEntries es = .ok l ↔
    field es "stat" text = .ok l.stat ∧ field es "comparison" text = .ok l.comparison ∧
      field es "value" integer = .ok l.value ∧
      es.KeysFit ["stat", "comparison", "value"] .refuse := by
  constructor
  · intro read
    simp only [ofEntries, Entries.minded_eq_ok_iff, seq_eq_ok_iff, map_eq_ok_iff] at read
    obtain ⟨⟨_, _, ⟨_, _, ⟨_, stat, rfl⟩, comparison, rfl⟩, value, rfl⟩, keys⟩ := read
    exact ⟨stat, comparison, value, keys⟩
  · rintro ⟨stat, comparison, value, keys⟩
    rw [ofEntries, Entries.minded_eq_ok_iff, stat, comparison, value]
    exact ⟨rfl, keys⟩

/-- A relation is read when each of its fields is and there are no others. -/
theorem StatRelation.ofEntries_eq_ok_iff {es : Entries} {r : StatRelation} : ofEntries es = .ok r ↔
    fieldOr es "type" () checkType = .ok () ∧
      fieldOr es "stat" none (optional text) = .ok r.stat ∧
      fieldOr es "comparison" none (optional text) = .ok r.comparison ∧
      fieldOr es "reference" "PRIMARY_TARGET" text = .ok r.reference ∧
      fieldOr es "reference_stat" none (optional text) = .ok r.referenceStat ∧
      es.KeysFit ["type", "stat", "comparison", "reference", "reference_stat"] .refuse := by
  constructor
  · intro read
    simp only [ofEntries, Entries.minded_eq_ok_iff, seq_eq_ok_iff, map_eq_ok_iff] at read
    obtain ⟨⟨_, _, ⟨_, _, ⟨_, _, ⟨_, _, ⟨_, type, rfl⟩, stat, rfl⟩, comparison, rfl⟩, reference,
      rfl⟩, other, rfl⟩, keys⟩ := read
    exact ⟨type, stat, comparison, reference, other, keys⟩
  · rintro ⟨type, stat, comparison, reference, other, keys⟩
    rw [ofEntries, Entries.minded_eq_ok_iff, type, stat, comparison, reference, other]
    exact ⟨rfl, keys⟩

/-- A targeting rule is read when each of its fields is. -/
theorem Targeting.ofValue_eq_ok_iff {v : Value} {t : Targeting} : ofValue v = .ok t ↔
    ∃ es, v.bare = .map es ∧ fieldOr es "type" "NONE" text = .ok t.type ∧
      fieldOr es "affinity" none (fun v => some <$> text v) = .ok t.affinity ∧
      fieldOr es "location" none (optional text) = .ok t.location ∧
      fieldOr es "restrictions" [] (list Restriction.ofValue) = .ok t.restrictions ∧
      fieldOr es "custom" [] (list text) = .ok t.custom ∧
      fieldOr es "max_targets" none (optional integer) = .ok t.maxTargets ∧
      fieldOr es "affected_filter" [] (list Restriction.ofValue) = .ok t.affectedFilter := by
  constructor
  · intro read
    simp only [ofValue, model_eq_ok_iff, seq_eq_ok_iff, map_eq_ok_iff] at read
    obtain ⟨es, bare, _, _, ⟨_, _, ⟨_, _, ⟨_, _, ⟨_, _, ⟨_, _, ⟨_, type, rfl⟩, affinity, rfl⟩,
      location, rfl⟩, restrictions, rfl⟩, custom, rfl⟩, most, rfl⟩, affected, rfl⟩ := read
    exact ⟨es, bare, type, affinity, location, restrictions, custom, most, affected⟩
  · rintro ⟨es, bare, type, affinity, location, restrictions, custom, most, affected⟩
    simp only [ofValue, model, bare, type, affinity, location, restrictions, custom, most, affected]
    rfl

/-- An effect is read when each field that it declares is, and it keeps all others. -/
theorem Effect.ofValue_eq_ok_iff {v : Value} {e : Effect} : ofValue v = .ok e ↔
    ∃ es : Entries, v.bare = .map es ∧ field es "type" text = .ok e.type ∧
      fieldOr es "count" none (optional integer) = .ok e.count ∧
      fieldOr es "destination" none (optional namedEntries) = .ok e.destination ∧
      fieldOr es "properties" [] (list text) = .ok e.properties ∧
      es.undeclared declared = e.extra ∧ es.KeysFit declared .keep := by
  constructor
  · intro read
    simp only [ofValue, model_eq_ok_iff, Entries.minded_eq_ok_iff, seq_eq_ok_iff,
      map_eq_ok_iff] at read
    obtain ⟨es, bare, ⟨_, _, ⟨_, _, ⟨_, _, ⟨_, _, ⟨_, type, rfl⟩, count, rfl⟩, destination, rfl⟩,
      properties, rfl⟩, ⟨rfl⟩, rfl⟩, keys⟩ := read
    exact ⟨es, bare, type, count, destination, properties, rfl, keys⟩
  · rintro ⟨es, bare, type, count, destination, properties, extra, keys⟩
    refine model_eq_ok_iff.2 ⟨es, bare, Entries.minded_eq_ok_iff.2 ⟨?_, keys⟩⟩
    rw [type, count, destination, properties, extra]
    rfl

/-- An ability is read when each of its fields is. -/
theorem Ability.ofValue_eq_ok_iff {v : Value} {a : Ability} : ofValue v = .ok a ↔
    ∃ es, v.bare = .map es ∧ field es "name" text = .ok a.name ∧
      fieldOr es "type" "ACTIVE" text = .ok a.type ∧
      fieldOr es "description" "" text = .ok a.description ∧
      fieldOr es "targeting" {} Targeting.ofValue = .ok a.targeting ∧
      fieldOr es "effect" none (optional Effect.ofValue) = .ok a.effect := by
  constructor
  · intro read
    simp only [ofValue, model_eq_ok_iff, seq_eq_ok_iff, map_eq_ok_iff] at read
    obtain ⟨es, bare, _, _, ⟨_, _, ⟨_, _, ⟨_, _, ⟨_, name, rfl⟩, type, rfl⟩, description, rfl⟩,
      targeting, rfl⟩, effect, rfl⟩ := read
    exact ⟨es, bare, name, type, description, targeting, effect⟩
  · rintro ⟨es, bare, name, type, description, targeting, effect⟩
    simp only [ofValue, model, bare, name, type, description, targeting, effect]
    rfl

/-- A card is read when each of its fields is. -/
theorem Card.ofValue_eq_ok_iff {v : Value} {c : Card} : ofValue v = .ok c ↔
    ∃ es, v.bare = .map es ∧ field es "id" text = .ok c.id ∧
      field es "name" text = .ok c.name ∧
      fieldOr es "type" "Ordnance" text = .ok c.type ∧
      fieldOr es "cost" 0 integer = .ok c.cost ∧
      fieldOr es "description" "" text = .ok c.description ∧
      fieldOr es "slots" 1 integer = .ok c.slots ∧
      fieldOr es "max_applications" none (optional integer) = .ok c.maxApplications ∧
      fieldOr es "targeting" {} Targeting.ofValue = .ok c.targeting ∧
      fieldOr es "additional_cost" none (optional ExtraCost.ofValue) = .ok c.extraCost ∧
      fieldOr es "secondary_targeting" none (optional SecondaryTargeting.ofValue) =
        .ok c.secondary ∧
      fieldOr es "condition" none (optional PlayCondition.ofValue) = .ok c.condition ∧
      fieldOr es "effect" none (optional Effect.ofValue) = .ok c.effect := by
  constructor
  · intro read
    simp only [ofValue, model_eq_ok_iff, seq_eq_ok_iff, map_eq_ok_iff] at read
    obtain ⟨es, bare, _, _, ⟨_, _, ⟨_, _, ⟨_, _, ⟨_, _, ⟨_, _, ⟨_, _, ⟨_, _, ⟨_, _, ⟨_, _, ⟨_, _,
      ⟨_, id, rfl⟩, name, rfl⟩, type, rfl⟩, cost, rfl⟩, description, rfl⟩, slots, rfl⟩,
      applications, rfl⟩, targeting, rfl⟩, extra, rfl⟩, secondary, rfl⟩, condition, rfl⟩,
      effect, rfl⟩ := read
    exact ⟨es, bare, id, name, type, cost, description, slots, applications, targeting, extra,
      secondary, condition, effect⟩
  · rintro ⟨es, bare, id, name, type, cost, description, slots, applications, targeting, extra,
      secondary, condition, effect⟩
    simp only [ofValue, model, bare, id, name, type, cost, description, slots, applications,
      targeting, extra, secondary, condition, effect]
    rfl

end DroneTactics
