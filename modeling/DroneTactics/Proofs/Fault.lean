import DroneTactics.Rules

/-!
Requests that may have no answer, asked one after the other.
-/

namespace DroneTactics

variable {α β : Type}

/-- Two requests in sequence have an answer when both have. -/
theorem bind_eq_ok_iff {x : Except Fault α} {f : α → Except Fault β} {b : β} :
    (x >>= f) = .ok b ↔ ∃ a, x = .ok a ∧ f a = .ok b := by
  cases x <;> simp [bind, Except.bind]

@[simp] theorem pure_eq_ok_iff {a b : α} : (pure a : Except Fault α) = .ok b ↔ a = b := by
  simp [pure, Except.pure]

/-- What passes a test, if each element has an answer, is left in its order. -/
theorem sublist_of_filterM {test : α → Except Fault Bool} {xs ys : List α}
    (found : xs.filterM test = .ok ys) : ys.Sublist xs := by
  -- The elements found so far are carried along in reverse.
  have collects : ∀ {xs earlier zs : List α}, xs.filterAuxM test earlier = .ok zs →
      ∃ ys : List α, zs = ys.reverse ++ earlier ∧ ys.Sublist xs := by
    intro xs
    induction xs with
    | nil =>
        intro earlier zs done
        exact ⟨[], (pure_eq_ok_iff.1 done).symm, .slnil⟩
    | cons x xs ih =>
        intro earlier zs asked
        obtain ⟨passes, -, asked⟩ := bind_eq_ok_iff.1 asked
        obtain ⟨ys, rfl, sub⟩ := ih asked
        cases passes with
        | true => exact ⟨x :: ys, by simp, sub.cons_cons x⟩
        | false => exact ⟨ys, rfl, sub.cons x⟩
  obtain ⟨zs, asked, done⟩ := bind_eq_ok_iff.1 found
  obtain ⟨ys', rfl, sub⟩ := collects asked
  obtain rfl := pure_eq_ok_iff.1 done
  simpa using sub

/-- If a test has an answer for each element, what passes it can be told. -/
theorem filterM_eq_ok {test : α → Except Fault Bool} {passes : α → Bool} {xs : List α}
    (answers : ∀ x ∈ xs, test x = .ok (passes x)) : xs.filterM test = .ok (xs.filter passes) := by
  have collects : ∀ {xs earlier : List α}, (∀ x ∈ xs, test x = .ok (passes x)) →
      xs.filterAuxM test earlier = .ok ((xs.filter passes).reverse ++ earlier) := by
    intro xs
    induction xs with
    | nil =>
        intro earlier _
        rfl
    | cons x xs ih =>
        intro earlier answers
        have rest : ∀ y ∈ xs, test y = .ok (passes y) := fun y mem =>
          answers y (List.mem_cons_of_mem x mem)
        refine bind_eq_ok_iff.2 ⟨_, answers x List.mem_cons_self, (ih rest).trans ?_⟩
        cases found : passes x with
        | true => simp [found]
        | false => simp [found]
  refine bind_eq_ok_iff.2 ⟨_, collects answers, ?_⟩
  simp [pure, Except.pure]

end DroneTactics
