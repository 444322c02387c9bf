import DroneTactics.Definition.Decode

/-!
A reading that fails says why. Each problem has a place and a reason, and what is read part by
part fails with the problems of its parts. So no card and no ability is refused without at
least one problem.
-/

namespace DroneTactics

namespace Decoded

variable {α β : Type} {x : Decoded α} {read : Value → Decoded α} {entries : Entries}

/-- The result is no failure without a problem. -/
def Explained (x : Decoded α) : Prop := x ≠ .failed []

def Explains (read : Value → Decoded α) : Prop := ∀ v, (read v).Explained

@[simp] theorem explained_ok (a : α) : (ok a).Explained := nofun

@[simp] theorem explained_pure (a : α) : (pure a : Decoded α).Explained := nofun

@[simp] theorem explained_fail (reason : Reason) : (fail reason : Decoded α).Explained := nofun

theorem explained_failed_iff {problems : List Problem} :
    (failed problems : Decoded α).Explained ↔ problems ≠ [] := by
  simp [Explained]

theorem Explained.problems_ne_nil (explained : x.Explained) (fails : ∀ a, x ≠ .ok a) :
    x.problems ≠ [] := by
  cases x with
  | ok a => exact absurd rfl (fails a)
  | failed problems => exact explained_failed_iff.1 explained

theorem problems_within (x : Decoded α) (step : Step) :
    (x.within step).problems = x.problems.map fun p => { p with place := step :: p.place } := by
  cases x <;> rfl

/-! ### Results put together -/

@[simp] theorem Explained.map (explained : x.Explained) (f : α → β) : (f <$> x).Explained := by
  cases x with
  | ok a => exact explained_ok _
  | failed problems => exact explained_failed_iff.2 (explained_failed_iff.1 explained)

theorem Explained.seq {f : Decoded (α → β)} (function : f.Explained)
    (argument : x.Explained) : (f <*> x).Explained := by
  cases f with
  | ok f =>
      cases x with
      | ok a => exact explained_ok _
      | failed more => exact explained_failed_iff.2 (explained_failed_iff.1 argument)
  | failed problems =>
      have reasons := explained_failed_iff.1 function
      cases x with
      | ok a => exact explained_failed_iff.2 reasons
      | failed more => exact explained_failed_iff.2 (List.append_ne_nil_of_left_ne_nil reasons more)

@[simp] theorem Explained.within (explained : x.Explained) (step : Step) :
    (x.within step).Explained := by
  cases x with
  | ok a => exact explained_ok _
  | failed problems =>
      have reasons := explained_failed_iff.1 explained
      exact explained_failed_iff.2 fun empty => reasons (List.map_eq_nil_iff.1 empty)

theorem Explained.also (explained : x.Explained) (more : List Problem) :
    (x.also more).Explained := by
  cases more with
  | nil => exact explained
  | cons problem more =>
      exact explained_failed_iff.2 (List.append_ne_nil_of_right_ne_nil _ (List.cons_ne_nil _ _))

theorem explained_traverse (explains : Explains read) (vs : List Value) (i : Nat) :
    (traverse read i vs).Explained := by
  induction vs generalizing i with
  | nil => exact explained_ok []
  | cons v vs ih => exact (((explains v).within _).map _).seq (ih _)

/-! ### Readers -/

theorem explains_model {name : String} {readEntries : Entries → Decoded α}
    (explained : ∀ entries, (readEntries entries).Explained) :
    Explains (model name readEntries) := by
  intro v
  unfold model
  split
  case h_1 entries _ => exact explained entries
  case h_2 => exact explained_fail _

@[simp] theorem Explains.map (explains : Explains read) (f : α → β) :
    Explains fun v => f <$> read v :=
  fun v => (explains v).map f

@[simp] theorem Explains.list (explains : Explains read) : Explains (list read) := by
  intro v
  unfold Decoded.list
  split
  case h_1 vs _ => exact explained_traverse explains vs 0
  case h_2 => exact explained_fail _

@[simp] theorem Explains.optional (explains : Explains read) : Explains (optional read) := by
  intro v
  unfold Decoded.optional
  split
  case h_1 => exact explained_ok _
  case h_2 => exact (explains v).map _

@[simp] theorem Explains.field (explains : Explains read) (name : String) :
    (field entries name read).Explained := by
  unfold Decoded.field
  split
  case h_1 v _ => exact (explains v).within _
  case h_2 => exact explained_failed_iff.2 (List.cons_ne_nil _ _)

@[simp] theorem Explains.fieldOr (explains : Explains read) (name : String) (usual : α) :
    (fieldOr entries name usual read).Explained := by
  unfold Decoded.fieldOr
  split
  case h_1 v _ => exact (explains v).within _
  case h_2 => exact explained_ok _

@[simp] theorem explains_text : Explains text := by
  intro v
  unfold text
  split
  case h_1 => exact explained_ok _
  case h_2 => split <;> simp
  case h_3 => exact explained_fail _

theorem explained_integerInText (s : String) : (integerInText s).Explained := by
  unfold integerInText
  split <;> simp

@[simp] theorem explains_integer : Explains integer := by
  intro v
  unfold integer
  split
  case h_3 =>
      split
      · exact explained_fail _
      · split
        · exact explained_fail _
        · split <;> simp
  case h_4 =>
      split
      · exact explained_fail _
      · exact explained_integerInText _
  case h_5 =>
      split
      · exact explained_integerInText _
      · exact explained_fail _
  all_goals simp

end Decoded

/-! ### Cards and abilities -/

open Decoded

theorem Decoded.Explained.minded {α : Type} {read : Decoded α} (explained : read.Explained)
    (es : Entries) (declared : List String) (policy : Unknown) :
    (es.minded declared policy read).Explained := by
  unfold Entries.minded
  split
  · exact explained_fail _
  · exact explained.also _

/-- What is neither a tag nor a limit nor a relation is refused as a tag at least. -/
@[simp] theorem Restriction.explains_ofValue : Explains Restriction.ofValue := by
  intro v
  unfold Restriction.ofValue
  split
  case h_4 noTag _ _ =>
      have tag : (text v).problems ≠ [] := (explains_text v).problems_ne_nil noTag
      refine explained_failed_iff.2 ?_
      simp [problems_within, tag]
  all_goals exact explained_ok _

@[simp] theorem Targeting.explains_ofValue : Explains Targeting.ofValue :=
  explains_model fun es => by
    repeat' apply Explained.seq
    all_goals simp

@[simp] theorem SecondaryTargeting.explains_ofValue : Explains SecondaryTargeting.ofValue :=
  explains_model fun es => by
    repeat' apply Explained.seq
    all_goals simp

@[simp] theorem ExtraCost.explains_ofValue : Explains ExtraCost.ofValue :=
  explains_model fun es => by
    repeat' apply Explained.seq
    all_goals simp

@[simp] theorem PlayCondition.explains_ofValue : Explains PlayCondition.ofValue :=
  explains_model fun es => by
    repeat' apply Explained.seq
    all_goals simp

theorem Effect.explained_namedEntry (entry : Atom × Value) : (namedEntry entry).Explained := by
  unfold namedEntry
  split
  case h_1 => exact explained_ok _
  case h_2 key v _ => exact (((explains_text (.atom key)).within _).within _).map _

@[simp] theorem Effect.explains_namedEntries : Explains namedEntries := by
  intro v
  unfold namedEntries
  split
  case h_1 es listed =>
      clear listed
      induction es with
      | nil => exact explained_ok []
      | cons entry es ih => exact ((explained_namedEntry entry).map _).seq ih
  case h_2 => exact explained_fail _

@[simp] theorem Effect.explains_ofValue : Explains Effect.ofValue :=
  explains_model fun es => by
    refine Explained.minded ?_ es _ _
    repeat' apply Explained.seq
    all_goals simp

theorem Ability.explains_ofValue : Explains Ability.ofValue :=
  explains_model fun es => by
    repeat' apply Explained.seq
    all_goals simp

theorem Card.explains_ofValue : Explains Card.ofValue :=
  explains_model fun es => by
    repeat' apply Explained.seq
    all_goals simp

end DroneTactics
