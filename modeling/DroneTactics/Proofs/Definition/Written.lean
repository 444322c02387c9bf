import DroneTactics.Definition.Dump
import DroneTactics.Proofs.Definition.Accepted
import DroneTactics.Proofs.Document.Equality

/-!
What is written of a definition reads as that definition. It names every declared field, so
nothing is left to be filled in, and each field is written in the one form that it is read back
from. Only an affinity that was not written is written then. Of an effect that needs some care:
the fields that it keeps must be none of those that it declares.
-/

namespace DroneTactics

/-! ### What the second reading gives -/

/-- The same rule with its affinity written. -/
def Targeting.named (t : Targeting) : Targeting := { t with affinity := some t.affinityWord }

def ExtraCost.named (c : ExtraCost) : ExtraCost := { c with targeting := c.targeting.named }

def Card.named (c : Card) : Card :=
  { c with targeting := c.targeting.named, extraCost := c.extraCost.map ExtraCost.named }

def Ability.named (a : Ability) : Ability := { a with targeting := a.targeting.named }

def Definition.named : Definition → Definition
  | .card c => .card c.named
  | .ability a => .ability a.named

/-! ### Fields that are written -/

namespace Decoded

variable {α β : Type} {es : Entries} {name other : String} {v : Value} {usual : β}
  {read : Value → Decoded β}

theorem named?_cons (es : Entries) (name other : String) (v : Value) :
    Entries.named? ((.str other, v) :: es) name =
      if other = name then some v else es.named? name := by
  simp only [Entries.named?, Entries.get?, List.find?_cons, Entries.sameKey_str, Atom.str.injEq]
  by_cases here : other = name <;> simp [here]

theorem field_cons : field ((.str other, v) :: es) name read =
    if other = name then (read v).within (.name name) else field es name read := by
  rw [field, named?_cons]
  by_cases here : other = name <;> simp [here, field]

theorem fieldOr_cons : fieldOr ((.str other, v) :: es) name usual read =
    if other = name then (read v).within (.name name) else fieldOr es name usual read := by
  rw [fieldOr, named?_cons]
  by_cases here : other = name <;> simp [here, fieldOr]

theorem text_str (s : String) : text (.str s) = .ok s := rfl

theorem integer_int (n : Int) : integer (.int n) = .ok n := rfl

theorem list_map {write : β → Value} {xs : List β}
    (restores : ∀ x ∈ xs, read (write x) = .ok x) : list read (.list (xs.map write)) = .ok xs := by
  have from_any : ∀ i, traverse read i (xs.map write) = .ok xs := by
    induction xs with
    | nil => exact fun _ => rfl
    | cons x xs ih =>
        intro i
        rw [List.forall_mem_cons] at restores
        rw [List.map_cons, traverse, restores.1, ih restores.2 (i + 1)]
        rfl
  exact from_any 0

theorem list_texts (xs : List String) : list text (.texts xs) = .ok xs :=
  list_map fun s _ => text_str s

theorem optional_getD {write : α → Value} {norm : α → β} {o : Option α}
    (given : ∀ a, write a ≠ .null) (restores : ∀ a, o = some a → read (write a) = .ok (norm a)) :
    optional read ((o.map write).getD .null) = .ok (o.map norm) := by
  cases o with
  | none => rfl
  | some a =>
      rw [Option.map_some, Option.getD_some, optional_of_ne_null (given a), restores a rfl]
      rfl

theorem optional_getD_same {write : β → Value} {o : Option β}
    (given : ∀ b, write b ≠ .null) (restores : ∀ b, o = some b → read (write b) = .ok b) :
    optional read ((o.map write).getD .null) = .ok o := by
  have back : optional read ((o.map write).getD .null) = .ok (o.map id) :=
    optional_getD given restores
  rwa [Option.map_id] at back

theorem optional_ofText? (o : Option String) : optional text (.ofText? o) = .ok o := by
  cases o <;> rfl

theorem optional_ofInt? (o : Option Int) : optional integer (.ofInt? o) = .ok o := by
  cases o <;> rfl

end Decoded

open Decoded

theorem Entries.keysFit_of_declared {es : Entries} {declared : List String} {policy : Unknown}
    (whole : ∀ name ∈ declared, Text.holdsHalf name = false)
    (names : ∀ entry ∈ es, ∃ name ∈ declared, entry.1 = .str name) :
    es.KeysFit declared policy := by
  constructor
  · intro entry mem
    obtain ⟨name, listed, here⟩ := names entry mem
    rw [here]
    exact whole name listed
  · rw [keyProblems, List.filterMap_eq_nil_iff]
    intro entry mem
    obtain ⟨name, listed, here⟩ := names entry mem
    cases policy <;> simp [here, listed]

/-! ### Restrictions -/

/-- What is read as a limit states a value. -/
theorem StatLimit.isSome_value {es : Entries} {l : StatLimit} (read : ofEntries es = .ok l) :
    (es.named? "value").isSome = true := by
  obtain ⟨-, -, value, -⟩ := ofEntries_eq_ok_iff.1 read
  obtain ⟨v, found, -⟩ := field_eq_ok_iff.1 value
  rw [found, Option.isSome_some]

/-- What is read as a relation states no value. -/
theorem StatRelation.value_eq_none {es : Entries} {r : StatRelation} (read : ofEntries es = .ok r) :
    es.named? "value" = none := by
  obtain ⟨-, -, -, -, -, keys⟩ := ofEntries_eq_ok_iff.1 read
  have known := keys.known
  rw [Entries.keyProblems, List.filterMap_eq_nil_iff] at known
  rw [Entries.named?, Entries.get?, Option.map_eq_none_iff, List.find?_eq_none]
  intro e mem here
  rw [Entries.sameKey_str, decide_eq_true_iff] at here
  have refused := known e mem
  simp [here] at refused

namespace Restriction

variable {es : Entries} {v : Value}

theorem text_of_bare (bare : v.bare = .map es) : text v = fail .notText := by
  unfold Value.bare at bare
  split at bare <;> subst bare <;> rfl

theorem ofValue_of_limit {l : StatLimit} (bare : v.bare = .map es)
    (read : StatLimit.ofEntries es = .ok l) : ofValue v = .ok (.limit l) := by
  rw [ofValue, text_of_bare bare]
  simp only [model, bare, read]
  rfl

/-- What is read as a relation is no limit, as it states no value. -/
theorem ofValue_of_relation {r : StatRelation} (bare : v.bare = .map es)
    (read : StatRelation.ofEntries es = .ok r) : ofValue v = .ok (.relation r) := by
  rw [ofValue, text_of_bare bare]
  simp only [model, bare, read]
  cases limit : StatLimit.ofEntries es with
  | ok l =>
      have value := StatLimit.isSome_value limit
      simp [StatRelation.value_eq_none read] at value
  | failed problems => rfl

theorem ofValue_toValue (r : Restriction) : ofValue r.toValue = .ok r := by
  cases r with
  | tag word => rfl
  | limit l =>
      refine ofValue_of_limit rfl (StatLimit.ofEntries_eq_ok_iff.2 ⟨?_, ?_, ?_, ?_⟩)
      case refine_4 => exact Entries.keysFit_of_declared (by decide) (by simp)
      all_goals simp [field_cons, text_str, integer_int]
  | relation r =>
      refine ofValue_of_relation rfl (StatRelation.ofEntries_eq_ok_iff.2 ⟨?_, ?_, ?_, ?_, ?_, ?_⟩)
      case refine_6 => exact Entries.keysFit_of_declared (by decide) (by simp)
      all_goals simp [fieldOr_cons, text_str, optional_ofText?, StatRelation.checkType,
        StatRelation.typeWord]

theorem list_ofValue_toValue (rs : List Restriction) :
    list ofValue (.list (rs.map toValue)) = .ok rs :=
  list_map fun r _ => ofValue_toValue r

end Restriction

/-! ### Rules, costs and conditions -/

theorem Targeting.ofValue_toValue (t : Targeting) : ofValue t.toValue = .ok t.named := by
  refine ofValue_eq_ok_iff.2 ⟨_, rfl, ?_⟩
  simp [fieldOr_cons, text_str, optional_ofText?, optional_ofInt?, list_texts,
    Restriction.list_ofValue_toValue, map_eq_ok_iff, named]

theorem SecondaryTargeting.ofValue_toValue (t : SecondaryTargeting) :
    ofValue t.toValue = .ok t := by
  simp [ofValue, toValue, model, Value.record, Value.bare, field_cons, fieldOr_cons, text_str,
    optional_ofText?, Restriction.list_ofValue_toValue, seq_eq_ok_iff, map_eq_ok_iff]

theorem ExtraCost.ofValue_toValue (c : ExtraCost) : ofValue c.toValue = .ok c.named := by
  simp [ofValue, toValue, model, Value.record, Value.bare, field_cons, fieldOr_cons, text_str,
    list_texts, Targeting.ofValue_toValue, seq_eq_ok_iff, map_eq_ok_iff, named]

theorem PlayCondition.ofValue_toValue (c : PlayCondition) : ofValue c.toValue = .ok c := by
  simp [ofValue, toValue, model, Value.record, Value.bare, field_cons, fieldOr_cons, text_str,
    list_texts, seq_eq_ok_iff, map_eq_ok_iff]

/-! ### Effects -/

namespace Effect

/-- What reading leaves in an effect: the fields that it keeps are named without halves and are
none of those that it declares, and the parts of a destination are named too. -/
structure Plain (e : Effect) : Prop where
  extra : ∀ entry ∈ e.extra,
    ∃ name, entry.1 = .str name ∧ name ∉ declared ∧ Text.holdsHalf name = false
  destination : ∀ d, e.destination = some d → Entries.Texts d

variable {es : Entries} {v : Value} {e : Effect}

theorem mem_undeclared_iff {entry : Atom × Value} : entry ∈ es.undeclared declared ↔
    entry ∈ es ∧ ∃ name, entry.1 = .str name ∧ name ∉ declared := by
  rw [Entries.undeclared, List.mem_filter]
  refine and_congr_right fun _ => ?_
  obtain ⟨key, value⟩ := entry
  cases key <;> simp

/-- The names of an effect's fields are all texts without halves. -/
theorem keysFit_iff : es.KeysFit declared .keep ↔
    ∀ entry ∈ es, ∃ name, entry.1 = .str name ∧ Text.holdsHalf name = false := by
  have known : es.keyProblems declared .keep = [] ↔ es.Texts := by
    rw [Entries.keyProblems, List.filterMap_eq_nil_iff]
    refine forall₂_congr fun entry _ => ?_
    obtain ⟨key, value⟩ := entry
    cases key <;> simp
  constructor
  · intro fit entry mem
    obtain ⟨name, here⟩ := known.1 fit.known entry mem
    have whole := fit.whole entry mem
    rw [here] at whole
    exact ⟨name, here, whole⟩
  · intro named
    refine ⟨fun entry mem => ?_, known.2 fun entry mem => (named entry mem).imp fun _ => And.left⟩
    obtain ⟨name, here, whole⟩ := named entry mem
    rw [here]
    exact whole

theorem namedEntries_map (texts : es.Texts) : namedEntries (.map es) = .ok es := by
  unfold namedEntries
  simp only [Value.bare]
  induction es with
  | nil => rfl
  | cons entry es ih =>
      obtain ⟨key, v⟩ := entry
      obtain ⟨⟨name, rfl⟩, later⟩ := Entries.texts_cons_iff.1 texts
      rw [List.foldr_cons, ih later]
      rfl

theorem texts_of_namedEntry {entry entry' : Atom × Value} (read : namedEntry entry = .ok entry') :
    ∃ name, entry'.1 = .str name := by
  unfold namedEntry at read
  split at read
  case h_1 name v =>
      cases read
      exact ⟨name, rfl⟩
  case h_2 key v _ =>
      obtain ⟨name, -, rfl⟩ := map_eq_ok_iff.1 read
      exact ⟨name, rfl⟩

theorem texts_of_namedEntries {d : Entries} (read : namedEntries v = .ok d) : d.Texts := by
  unfold namedEntries at read
  split at read
  case h_1 es bare =>
      clear bare
      induction es generalizing d with
      | nil =>
          cases read
          exact fun _ mem => absurd mem List.not_mem_nil
      | cons entry es ih =>
          rw [List.foldr_cons] at read
          simp only [seq_eq_ok_iff, map_eq_ok_iff] at read
          obtain ⟨_, rest, ⟨entry', named, rfl⟩, later, rfl⟩ := read
          exact List.forall_mem_cons.2 ⟨texts_of_namedEntry named, ih later⟩
  case h_2 => cases read

theorem plain_of_ofValue (read : ofValue v = .ok e) : e.Plain := by
  obtain ⟨es, -, -, -, destination, -, extra, keys⟩ := ofValue_eq_ok_iff.1 read
  constructor
  · intro entry mem
    obtain ⟨inside, name, here, undeclared⟩ := mem_undeclared_iff.1 (extra ▸ mem)
    obtain ⟨name', here', whole⟩ := keysFit_iff.1 keys entry inside
    obtain rfl := Atom.str.inj (here.symm.trans here')
    exact ⟨name, here, undeclared, whole⟩
  · intro d given
    rw [given, fieldOr_eq_ok_iff] at destination
    obtain ⟨v, -, read⟩ := destination.resolve_right nofun
    exact texts_of_namedEntries (optional_eq_some_iff.1 read).2

/-- An effect keeps every field that it does not declare. -/
theorem mem_extra_of_ofValue (read : ofValue v = .ok e) (bare : v.bare = .map es) :
    ∀ entry ∈ es, (∀ name ∈ declared, entry.1 ≠ .str name) → entry ∈ e.extra := by
  intro entry mem other
  obtain ⟨es', bare', -, -, -, -, extra, keys⟩ := ofValue_eq_ok_iff.1 read
  obtain rfl := Value.map.inj (bare.symm.trans bare')
  obtain ⟨name, here, -⟩ := keysFit_iff.1 keys entry mem
  rw [← extra, mem_undeclared_iff]
  exact ⟨mem, name, here, fun listed => other name listed here⟩

/-- Of the fields that are written those that an effect declares are read, and the others kept. -/
theorem undeclared_written (plain : e.Plain) (count destination properties : Value) :
    Entries.undeclared ((.str "type", .str e.type) :: (.str "count", count) ::
      (.str "destination", destination) :: (.str "properties", properties) :: e.extra) declared =
        e.extra := by
  have kept : Entries.undeclared e.extra declared = e.extra := by
    refine List.filter_eq_self.2 fun entry mem => ?_
    have undeclared : entry ∈ Entries.undeclared e.extra declared :=
      mem_undeclared_iff.2 ⟨mem, (plain.extra entry mem).imp fun _ kept => ⟨kept.1, kept.2.1⟩⟩
    exact (List.mem_filter.1 undeclared).2
  simpa [Entries.undeclared, declared] using kept

theorem ofValue_toValue (plain : e.Plain) : ofValue e.toValue = .ok e := by
  refine ofValue_eq_ok_iff.2 ⟨_, rfl, ?_⟩
  have destination : optional namedEntries ((e.destination.map Value.map).getD .null) =
      .ok e.destination :=
    optional_getD_same nofun fun d given => namedEntries_map (plain.destination d given)
  have keys : Entries.KeysFit ((.str "type", .str e.type) :: (.str "count", .ofInt? e.count) ::
      (.str "destination", (e.destination.map Value.map).getD .null) ::
        (.str "properties", .texts e.properties) :: e.extra) declared .keep := by
    have whole : ∀ name ∈ declared, Text.holdsHalf name = false := by decide
    have kept : ∀ entry ∈ e.extra, ∃ name, entry.1 = .str name ∧ Text.holdsHalf name = false :=
      fun entry mem => (plain.extra entry mem).imp fun _ kept => ⟨kept.1, kept.2.2⟩
    simp only [declared, List.forall_mem_cons] at whole
    obtain ⟨type, count, destination, properties, -⟩ := whole
    refine keysFit_iff.2 ?_
    simp only [List.forall_mem_cons]
    exact ⟨⟨_, rfl, type⟩, ⟨_, rfl, count⟩, ⟨_, rfl, destination⟩, ⟨_, rfl, properties⟩, kept⟩
  simp [field_cons, fieldOr_cons, text_str, optional_ofInt?, list_texts, destination, keys,
    undeclared_written plain]

theorem optional_ofValue_toValue {o : Option Effect} (plain : ∀ e, o = some e → e.Plain) :
    optional ofValue ((o.map toValue).getD .null) = .ok o :=
  optional_getD_same nofun fun e given => ofValue_toValue (plain e given)

end Effect

/-! ### Definitions -/

theorem Ability.ofValue_toValue {a : Ability} (plain : ∀ e, a.effect = some e → e.Plain) :
    ofValue a.toValue = .ok a.named := by
  refine ofValue_eq_ok_iff.2 ⟨_, rfl, ?_⟩
  simp [field_cons, fieldOr_cons, text_str, Targeting.ofValue_toValue,
    Effect.optional_ofValue_toValue plain, named]

theorem Card.ofValue_toValue {c : Card} (plain : ∀ e, c.effect = some e → e.Plain) :
    ofValue c.toValue = .ok c.named := by
  refine ofValue_eq_ok_iff.2 ⟨_, rfl, ?_⟩
  have cost : optional ExtraCost.ofValue ((c.extraCost.map ExtraCost.toValue).getD .null) =
      .ok (c.extraCost.map ExtraCost.named) :=
    optional_getD nofun fun cost _ => cost.ofValue_toValue
  have secondary : optional SecondaryTargeting.ofValue
      ((c.secondary.map SecondaryTargeting.toValue).getD .null) = .ok c.secondary :=
    optional_getD_same nofun fun rule _ => rule.ofValue_toValue
  have condition : optional PlayCondition.ofValue
      ((c.condition.map PlayCondition.toValue).getD .null) = .ok c.condition :=
    optional_getD_same nofun fun condition _ => condition.ofValue_toValue
  simp [field_cons, fieldOr_cons, text_str, integer_int, optional_ofInt?,
    Targeting.ofValue_toValue, Effect.optional_ofValue_toValue plain, cost, secondary, condition,
    named]

end DroneTactics
