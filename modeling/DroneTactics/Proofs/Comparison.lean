import DroneTactics.Comparison
import DroneTactics.Proofs.Document.Order

/-!
The comparisons that card data may ask for, over all JSON values. They read one equality and one
order, so they fit together: a comparison turned around asks for the converse one, equal values
are compared alike, and less, equal and greater exclude each other. Two numbers or two texts are
always in one of these three relations. Other sides may be in none of them.
-/

namespace DroneTactics

namespace Comparison

def exclusive : List Comparison := [.lt, .eq, .gt]

/-- What a comparison asks when its sides are turned around. -/
def converse : Comparison → Comparison
  | .lt => .gt
  | .lte => .gte
  | .eq => .eq
  | .gt => .lt
  | .gte => .lte

end Comparison

namespace Value

inductive IsNumber : Value → Prop where
  | bool (b : Bool) : IsNumber (.bool b)
  | int (n : Int) : IsNumber (.int n)
  | float (x : Binary64) : IsNumber (.float x)

inductive IsText : Value → Prop where
  | str (s : String) : IsText (.str s)

variable {a b c : Value}

section

variable (left : a.IsJson) (right : b.IsJson)

include left right

theorem compare_swap (o : Comparison) : a.compare o b = b.compare o.converse a := by
  rw [compare, compare, order?_swap left right, same_comm left right]
  cases a.order? b with
  | none => cases o <;> rfl
  | some order => cases o <;> cases order <;> rfl

/-- What is not above is below or equal. -/
theorem lt_or_eq_of_compare_lte (below : a.compare .lte b = true) :
    a.compare .lt b = true ∨ a.compare .eq b = true := by
  simp only [compare, Comparison.holds, Bool.or_eq_true, decide_eq_true_eq] at below ⊢
  exact below.imp_right (same_of_order?_eq left right)

theorem not_compare_lt_of_eq (equal : a.compare .eq b = true) : a.compare .lt b = false :=
  decide_eq_false (order?_ne_lt_of_same left right equal)

/-- Less, equal and greater exclude each other. -/
theorem compare_exclusive {o o' : Comparison} (first : o ∈ Comparison.exclusive)
    (second : o' ∈ Comparison.exclusive) (holds : a.compare o b = true)
    (holds' : a.compare o' b = true) : o = o' := by
  have unequal : a.compare .eq b = true → a.compare .lt b = false ∧ a.compare .gt b = false := by
    intro equal
    refine ⟨not_compare_lt_of_eq left right equal, ?_⟩
    rw [compare_swap left right]
    exact not_compare_lt_of_eq right left (same_symm left right equal)
  have apart : a.compare .lt b = true → a.compare .gt b = false := by
    intro below
    have order : a.order? b = some .lt := of_decide_eq_true below
    simp [compare, Comparison.holds, order]
  simp only [Comparison.exclusive, List.mem_cons, List.not_mem_nil, or_false] at first second
  rcases first with rfl | rfl | rfl <;> rcases second with rfl | rfl | rfl <;> simp_all

/-- Sides that have an order are in one of the three relations. -/
theorem exists_compare_of_order? {order : Ordering} (ordered : a.order? b = some order) :
    ∃ o ∈ Comparison.exclusive, a.compare o b = true := by
  cases order with
  | lt => exact ⟨.lt, by decide, decide_eq_true ordered⟩
  | eq => exact ⟨.eq, by decide, same_of_order?_eq left right ordered⟩
  | gt => exact ⟨.gt, by decide, decide_eq_true ordered⟩

omit right in
theorem IsNumber.exists_magnitude (number : a.IsNumber) :
    ∃ n m, a = .atom n ∧ n.magnitude? = some m := by
  cases number <;> cases left with
  | atom json =>
      cases json.kind with
      | number size => exact ⟨_, _, rfl, size⟩

/-- Two numbers have an order, and two texts. -/
theorem exists_order? (alike : a.IsNumber ∧ b.IsNumber ∨ a.IsText ∧ b.IsText) :
    ∃ order, a.order? b = some order := by
  rcases alike with ⟨number, number'⟩ | ⟨⟨s⟩, ⟨t⟩⟩
  · obtain ⟨n, m, rfl, size⟩ := number.exists_magnitude left
    obtain ⟨n', m', rfl, size'⟩ := number'.exists_magnitude right
    exact ⟨m.order m', by rw [order?, Atom.order?_of_magnitude_left size, size', Option.map_some]⟩
  · exact ⟨_, rfl⟩

end

/-- Equal values are below the same values and above the same values. -/
theorem compare_lt_congr (first : a.IsJson) (second : b.IsJson) (third : c.IsJson)
    (equal : a.compare .eq b = true) :
    a.compare .lt c = b.compare .lt c ∧ c.compare .lt a = c.compare .lt b := by
  have before := order?_congr_left first second third equal
  have after := order?_congr_right first second third equal
  simp only [compare, Comparison.holds, before, after, and_self]

/-- The comparisons fit together on all JSON values. Each of them turned around is its converse.
Equality is an equivalence, and equal values are below the same values and above the same ones.
What is below something below a third value is below that one. At most one of less, equal and
greater holds, and exactly one of two numbers or two texts; less or equal is less or it is equal,
and less is among it. -/
theorem comparisons_fit_together (first : a.IsJson) (second : b.IsJson) (third : c.IsJson) :
    (a.compare .lt b = b.compare .gt a ∧ a.compare .lte b = b.compare .gte a) ∧
    (a.compare .eq a = true ∧ (a.compare .eq b = true → b.compare .eq a = true) ∧
      (a.compare .eq b = true → b.compare .eq c = true → a.compare .eq c = true)) ∧
    (∀ o ∈ Comparison.exclusive, ∀ o' ∈ Comparison.exclusive,
      a.compare o b = true → a.compare o' b = true → o = o') ∧
    (a.compare .lt b = true → b.compare .lt c = true → a.compare .lt c = true) ∧
    (a.compare .eq b = true →
      a.compare .lt c = b.compare .lt c ∧ c.compare .lt a = c.compare .lt b) ∧
    (a.compare .lt b = true → a.compare .lte b = true) ∧
    (a.compare .lte b = true → a.compare .lt b = true ∨ a.compare .eq b = true) ∧
    (a.IsNumber ∧ b.IsNumber ∨ a.IsText ∧ b.IsText →
      ∃! o, o ∈ Comparison.exclusive ∧ a.compare o b = true) := by
  refine ⟨⟨compare_swap first second .lt, compare_swap first second .lte⟩,
    ⟨same_refl first, same_symm first second, same_trans first second third⟩, ?_, ?_,
    compare_lt_congr first second third, ?_, lt_or_eq_of_compare_lte first second, ?_⟩
  · intro o mem o' mem'
    exact compare_exclusive first second mem mem'
  · intro before next
    exact decide_eq_true
      (order?_trans first second third (of_decide_eq_true before) (of_decide_eq_true next))
  · intro below
    simp only [compare, Comparison.holds, Bool.or_eq_true]
    exact .inl below
  · intro alike
    obtain ⟨order, ordered⟩ := exists_order? first second alike
    obtain ⟨o, mem, holds⟩ := exists_compare_of_order? first second ordered
    exact ⟨o, ⟨mem, holds⟩, fun o' other =>
      compare_exclusive first second other.1 mem other.2 holds⟩

/-- Lists that agree up to their last items are ordered by those, also where the items before are
equal without an order or written in different ways. -/
theorem last_items_decide :
    let a := Value.list [.null, .bool true, .str "a"]
    let b := Value.list [.null, .int 1, .str "b"]
    let c := Value.list [.null, .float (.finite false 1 0), .str "c"]
    (a.IsJson ∧ b.IsJson ∧ c.IsJson) ∧ Value.null.compare .lte .null = false ∧
      a.compare .lt b = true ∧ b.compare .lt c = true ∧ a.compare .lt c = true := by
  intro a b c
  have json : ∀ (n : Atom) (s : String), n.IsJson →
      (Value.list [.null, .atom n, .str s]).IsJson := by
    intro n s number
    refine .list fun v mem => ?_
    simp only [List.mem_cons, List.not_mem_nil, or_false] at mem
    rcases mem with rfl | rfl | rfl
    · exact .atom .null
    · exact .atom number
    · exact .atom (.str s)
  have first : a.IsJson := json _ _ (.bool true)
  have second : b.IsJson := json _ _ (.int 1)
  have third : c.IsJson := json _ _ (.float (by simp))
  have before : a.compare .lt b = true := by decide +kernel
  have next : b.compare .lt c = true := by decide +kernel
  obtain ⟨-, -, -, trans, -⟩ := comparisons_fit_together first second third
  exact ⟨⟨first, second, third⟩, rfl, before, next, trans before next⟩

end Value

end DroneTactics
