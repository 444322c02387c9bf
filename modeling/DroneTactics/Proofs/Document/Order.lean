import DroneTactics.Proofs.Document.Equality

/-!
The order of JSON values. Lists are ordered by their first items that are not equal, and these
may be without an order, so the order is partial in a way of its own. It still agrees with
equality: values that are ordered as equals are equal, equal values take the same place, and
what comes before something that comes before a third value comes before that one too.
-/

namespace DroneTactics.Value

variable {a b c : Value} {xs ys zs : List Value}

theorem order?_map_left (entries : Entries) (v : Value) : (Value.map entries).order? v = none := by
  cases v <;> simp [order?]

theorem order?_map_right (v : Value) (entries : Entries) : v.order? (.map entries) = none := by
  cases v <;> simp [order?]

/-! ### Turned around -/

theorem orderItems?_swap (left : ∀ x ∈ xs, x.IsJson) (right : ∀ y ∈ ys, y.IsJson)
    (swap : ∀ x ∈ xs, ∀ y ∈ ys, y.order? x = (x.order? y).map Ordering.swap) :
    orderItems? ys xs = (orderItems? xs ys).map Ordering.swap := by
  induction xs generalizing ys with
  | nil => cases ys <;> rfl
  | cons x xs ih =>
      cases ys with
      | nil => rfl
      | cons y ys =>
          simp only [List.forall_mem_cons] at left right swap
          rw [orderItems?, orderItems?, same_comm left.1 right.1]
          split
          · exact ih left.2 right.2 fun x mem y mem' => (swap.2 x mem).2 y mem'
          · exact swap.1.1

/-- Turning the sides around turns the order around. -/
theorem order?_swap (left : a.IsJson) (right : b.IsJson) :
    b.order? a = (a.order? b).map Ordering.swap := by
  induction left generalizing b with
  | atom left =>
      cases right with
      | atom right =>
          rw [order?, order?, Atom.order?_eq_rank left right, Atom.order?_eq_rank right left,
            Rank.order?_swap]
      | list | map => simp [order?]
  | list each ih =>
      cases right with
      | list each' =>
          rw [order?, order?]
          exact orderItems?_swap each each' fun x mem y mem' => ih x mem (each' y mem')
      | atom | map => simp [order?]
  | map => rw [order?_map_left, order?_map_right, Option.map_none]

/-! ### Equal values -/

theorem sameItems_of_orderItems?_eq
    (only : ∀ x ∈ xs, ∀ y ∈ ys, x.order? y = some .eq → x.same y = true)
    (order : orderItems? xs ys = some .eq) : sameItems xs ys = true := by
  induction xs generalizing ys with
  | nil => cases ys <;> simp_all [orderItems?, sameItems]
  | cons x xs ih =>
      cases ys with
      | nil => simp [orderItems?] at order
      | cons y ys =>
          simp only [List.forall_mem_cons] at only
          rw [orderItems?] at order
          rw [sameItems, Bool.and_eq_true]
          split at order
          case isTrue equal =>
              exact ⟨equal, ih (fun x mem y mem' => (only.2 x mem).2 y mem') order⟩
          case isFalse unequal => exact absurd (only.1.1 order) unequal

/-- Values that are ordered as equals are equal. -/
theorem same_of_order?_eq (left : a.IsJson) (right : b.IsJson) (order : a.order? b = some .eq) :
    a.same b = true := by
  induction left generalizing b with
  | atom left =>
      cases right with
      | atom right =>
          rw [order?, Atom.order?_eq_rank left right] at order
          rw [same, Atom.same_eq_rank left right, decide_eq_true (Rank.eq_of_order?_eq order)]
      | list | map => simp [order?] at order
  | list each ih =>
      cases right with
      | list each' =>
          rw [order?] at order
          rw [same]
          exact sameItems_of_orderItems?_eq (fun x mem y mem' => ih x mem (each' y mem')) order
      | atom | map => simp [order?] at order
  | map => simp [order?_map_left] at order

theorem orderItems?_of_sameItems (equal : sameItems xs ys = true) :
    orderItems? xs ys = some .eq := by
  induction xs generalizing ys with
  | nil => cases ys <;> simp_all [orderItems?, sameItems]
  | cons x xs ih =>
      cases ys with
      | nil => simp [sameItems] at equal
      | cons y ys =>
          rw [sameItems, Bool.and_eq_true] at equal
          rw [orderItems?, if_pos equal.1, ih equal.2]

/-- Of equal values none comes first. -/
theorem order?_ne_lt_of_same (left : a.IsJson) (right : b.IsJson) (equal : a.same b = true) :
    a.order? b ≠ some .lt := by
  cases left with
  | atom left =>
      cases right with
      | atom right =>
          rw [same, Atom.same_eq_rank left right, decide_eq_true_iff] at equal
          rw [order?, Atom.order?_eq_rank left right, equal]
          exact Rank.order?_self_ne_lt _
      | list | map => simp [same] at equal
  | list =>
      cases right with
      | list =>
          rw [same] at equal
          simp [order?, orderItems?_of_sameItems equal]
      | atom | map => simp [same] at equal
  | map => simp [order?_map_left]

theorem orderItems?_congr (first : ∀ x ∈ xs, x.IsJson) (second : ∀ y ∈ ys, y.IsJson)
    (third : ∀ z ∈ zs, z.IsJson) (equal : sameItems xs ys = true)
    (congr : ∀ x ∈ xs, ∀ y ∈ ys, ∀ z ∈ zs, x.same y = true → x.order? z = y.order? z) :
    orderItems? xs zs = orderItems? ys zs := by
  induction xs generalizing ys zs with
  | nil => cases ys <;> simp_all [sameItems]
  | cons x xs ih =>
      cases ys with
      | nil => simp [sameItems] at equal
      | cons y ys =>
          rw [sameItems, Bool.and_eq_true] at equal
          cases zs with
          | nil => rfl
          | cons z zs =>
              simp only [List.forall_mem_cons] at first second third congr
              rw [orderItems?, orderItems?,
                same_congr_left first.1 second.1 third.1 equal.1]
              split
              · exact ih first.2 second.2 third.2 equal.2
                  fun x mem y mem' z mem'' => ((congr.2 x mem).2 y mem').2 z mem''
              · exact congr.1.1.1 equal.1

/-- Equal values have the same place in the order. -/
theorem order?_congr_left (first : a.IsJson) (second : b.IsJson) (third : c.IsJson)
    (equal : a.same b = true) : a.order? c = b.order? c := by
  induction first generalizing b c with
  | atom first =>
      cases second with
      | atom second =>
          cases third with
          | atom third =>
              rw [same, Atom.same_eq_rank first second, decide_eq_true_iff] at equal
              rw [order?, order?, Atom.order?_eq_rank first third, Atom.order?_eq_rank second third,
                equal]
          | list | map => simp [order?]
      | list | map => simp [same] at equal
  | list each ih =>
      cases second with
      | list each' =>
          cases third with
          | list each'' =>
              rw [same] at equal
              rw [order?, order?]
              exact orderItems?_congr each each' each'' equal
                fun x mem y mem' z mem'' => ih x mem (each' y mem') (each'' z mem'')
          | atom | map => simp [order?]
      | atom | map => simp [same] at equal
  | map =>
      cases second with
      | map => rw [order?_map_left, order?_map_left]
      | atom | list => simp [same] at equal

theorem order?_congr_right (first : a.IsJson) (second : b.IsJson) (third : c.IsJson)
    (equal : a.same b = true) : c.order? a = c.order? b := by
  rw [order?_swap first third, order?_swap second third,
    order?_congr_left first second third equal]

/-! ### One after the other -/

theorem orderItems?_trans (first : ∀ x ∈ xs, x.IsJson) (second : ∀ y ∈ ys, y.IsJson)
    (third : ∀ z ∈ zs, z.IsJson)
    (trans : ∀ x ∈ xs, ∀ y ∈ ys, ∀ z ∈ zs, x.order? y = some .lt → y.order? z = some .lt →
      x.order? z = some .lt)
    (before : orderItems? xs ys = some .lt) (next : orderItems? ys zs = some .lt) :
    orderItems? xs zs = some .lt := by
  induction xs generalizing ys zs with
  | nil =>
      cases zs with
      | nil => cases ys <;> simp [orderItems?] at next
      | cons z zs => rfl
  | cons x xs ih =>
      cases ys with
      | nil => simp [orderItems?] at before
      | cons y ys =>
          cases zs with
          | nil => simp [orderItems?] at next
          | cons z zs =>
              simp only [List.forall_mem_cons] at first second third trans
              obtain ⟨first, firsts⟩ := first
              obtain ⟨second, seconds⟩ := second
              obtain ⟨third, thirds⟩ := third
              rw [orderItems?] at before next ⊢
              -- The lists differ first where the earlier one of the two differences is.
              by_cases equal : x.same y = true
              · rw [if_pos equal] at before
                rw [same_congr_left first second third equal,
                  order?_congr_left first second third equal]
                by_cases equal' : y.same z = true
                · rw [if_pos equal'] at next ⊢
                  exact ih firsts seconds thirds
                    (fun x mem y mem' z mem'' => ((trans.2 x mem).2 y mem').2 z mem'') before next
                · rwa [if_neg equal'] at next ⊢
              · rw [if_neg equal] at before
                by_cases equal' : y.same z = true
                · rw [← order?_congr_right second third first equal', before,
                    if_neg fun same => equal (same_trans first third second same
                      (same_symm second third equal'))]
                · rw [if_neg equal'] at next
                  have whole := trans.1.1.1 before next
                  rw [whole, if_neg fun same => order?_ne_lt_of_same first third same whole]

/-- What comes before something that comes before a third value comes before that one too. -/
theorem order?_trans (first : a.IsJson) (second : b.IsJson) (third : c.IsJson)
    (before : a.order? b = some .lt) (next : b.order? c = some .lt) : a.order? c = some .lt := by
  induction first generalizing b c with
  | atom first =>
      cases second with
      | atom second =>
          cases third with
          | atom third =>
              rw [order?, Atom.order?_eq_rank first second] at before
              rw [order?, Atom.order?_eq_rank second third] at next
              rw [order?, Atom.order?_eq_rank first third]
              exact Rank.order?_trans before next
          | list | map => simp [order?] at next
      | list | map => simp [order?] at before
  | list each ih =>
      cases second with
      | list each' =>
          cases third with
          | list each'' =>
              rw [order?] at before next ⊢
              exact orderItems?_trans each each' each''
                (fun x mem y mem' z mem'' => ih x mem (each' y mem') (each'' z mem'')) before next
          | atom | map => simp [order?] at next
      | atom | map => simp [order?] at before
  | map => simp [order?_map_left] at before

end DroneTactics.Value
