import Mathlib.Data.List.Nodup

/-!
Lists that are complete and in order. A specification says which things there are and at
which places; a list has exactly these, each once, in the order of the places. The ways in
which such lists are made keep this: testing each element, and putting the lists of several
elements one after the other, which orders places first by the outer and then by the inner
place.
-/

namespace DroneTactics

variable {ι κ α β : Type} {before : ι → ι → Prop} {before' : κ → κ → Prop}
  {holds : ι → α → Prop} {xs : List α}

/-- The list of the things that are held at some places, in the order of the places. -/
def Lists (before : ι → ι → Prop) (holds : ι → α → Prop) (xs : List α) : Prop :=
  ∃ placed : List (ι × α), placed.map Prod.snd = xs ∧
    placed.Pairwise (fun p q => before p.1 q.1) ∧ ∀ i x, (i, x) ∈ placed ↔ holds i x

namespace Lists

/-- What is held at one place only is listed once. -/
theorem nodup (lists : Lists before holds xs) (irrefl : ∀ i, ¬before i i)
    (unique : ∀ i j x, holds i x → holds j x → i = j) : xs.Nodup := by
  obtain ⟨placed, rfl, ordered, complete⟩ := lists
  rw [List.Nodup, List.pairwise_map]
  refine ordered.imp_of_mem ?_
  rintro ⟨i, x⟩ ⟨j, y⟩ here there less rfl
  obtain rfl := unique i j x ((complete i x).1 here) ((complete j x).1 there)
  exact irrefl i less

/-- The places may be named in another way that keeps their order. -/
theorem rename {holds' : κ → α → Prop} (lists : Lists before holds xs) (f : ι → κ)
    (mono : ∀ i j, before i j → before' (f i) (f j))
    (same : ∀ k x, holds' k x ↔ ∃ i, f i = k ∧ holds i x) : Lists before' holds' xs := by
  obtain ⟨placed, rfl, ordered, complete⟩ := lists
  refine ⟨placed.map fun p => (f p.1, p.2), by simp [Function.comp_def], ?_, ?_⟩
  · rw [List.pairwise_map]
    exact ordered.imp fun less => mono _ _ less
  · intro k x
    rw [List.mem_map, same]
    constructor
    · rintro ⟨⟨i, y⟩, mem, there⟩
      obtain ⟨rfl, rfl⟩ := Prod.mk.inj there
      exact ⟨i, rfl, (complete i y).1 mem⟩
    · rintro ⟨i, rfl, held⟩
      exact ⟨(i, x), (complete i x).2 held, rfl⟩

theorem congr {holds' : ι → α → Prop} (lists : Lists before holds xs)
    (same : ∀ i x, holds' i x ↔ holds i x) : Lists before holds' xs :=
  lists.rename id (fun _ _ less => less) (by simpa using same)

/-- A list is the list of its elements in the order of their positions. -/
theorem positions (xs : List α) : Lists (· < ·) (fun (i : Nat) x => xs[i]? = some x) xs := by
  refine ⟨xs.zipIdx.map Prod.swap, by simp [Function.comp_def], ?_, ?_⟩
  · have increasing : (xs.zipIdx.map Prod.snd).Pairwise (· < ·) := by
      rw [List.zipIdx_map_snd]
      exact List.pairwise_lt_range'
    rw [List.pairwise_map] at increasing ⊢
    exact increasing
  · intro i x
    rw [List.mem_map]
    constructor
    · rintro ⟨⟨y, j⟩, mem, same⟩
      obtain ⟨rfl, rfl⟩ := Prod.mk.inj same
      exact List.mem_zipIdx_iff_getElem?.1 mem
    · intro there
      exact ⟨(x, i), List.mem_zipIdx_iff_getElem?.2 there, rfl⟩

/-- A list that is in order is the list of its elements, each in its own place. -/
theorem of_increasing {is : List ι} (increasing : is.Pairwise before) :
    Lists before (fun i x => i ∈ is ∧ i = x) is := by
  refine ⟨is.map fun i => (i, i), by simp [Function.comp_def], List.pairwise_map.2 increasing, ?_⟩
  intro i x
  simp only [List.mem_map, Prod.mk.injEq]
  constructor
  · rintro ⟨j, mem, rfl, rfl⟩
    exact ⟨mem, rfl⟩
  · rintro ⟨mem, rfl⟩
    exact ⟨i, mem, rfl, rfl⟩

/-- What a function makes of the elements, as far as it makes something. -/
theorem filterMap (lists : Lists before holds xs) (f : α → Option β) :
    Lists before (fun i y => ∃ x, holds i x ∧ f x = some y) (xs.filterMap f) := by
  obtain ⟨placed, rfl, ordered, complete⟩ := lists
  refine ⟨placed.filterMap fun p => (f p.2).map (p.1, ·), ?_, ?_, ?_⟩
  · rw [List.map_filterMap, List.filterMap_map]
    simp [Function.comp_def]
  · rw [List.pairwise_filterMap]
    refine ordered.imp ?_
    intro p q less p' made q' made'
    obtain ⟨y, -, rfl⟩ := Option.map_eq_some_iff.1 made
    obtain ⟨y', -, rfl⟩ := Option.map_eq_some_iff.1 made'
    exact less
  · intro i y
    rw [List.mem_filterMap]
    constructor
    · rintro ⟨⟨j, x⟩, mem, made⟩
      obtain ⟨z, makes, same⟩ := Option.map_eq_some_iff.1 made
      obtain ⟨rfl, rfl⟩ := Prod.mk.inj same
      exact ⟨x, (complete j x).1 mem, makes⟩
    · rintro ⟨x, held, made⟩
      exact ⟨(i, x), (complete i x).2 held, by simp [made]⟩

theorem map (lists : Lists before holds xs) (f : α → β) :
    Lists before (fun i y => ∃ x, holds i x ∧ f x = y) (xs.map f) := by
  have mapped := lists.filterMap (some ∘ f)
  rw [List.filterMap_eq_map] at mapped
  exact mapped.congr fun i y => by simp

theorem filter (lists : Lists before holds xs) (p : α → Bool) :
    Lists before (fun i x => holds i x ∧ p x = true) (xs.filter p) := by
  have filtered := lists.filterMap (Option.guard p)
  rw [List.filterMap_eq_filter] at filtered
  refine filtered.congr fun i x => ?_
  simp [Option.guard_eq_some_iff]

/-- The lists that are made from the elements, one after the other. -/
theorem flatMap {holds' : α → κ → β → Prop} {F : α → List β} (lists : Lists before holds xs)
    (each : ∀ x, Lists before' (holds' x) (F x)) :
    Lists (Prod.Lex before before') (fun k y => ∃ x, holds k.1 x ∧ holds' x k.2 y)
      (xs.flatMap F) := by
  obtain ⟨placed, rfl, ordered, complete⟩ := lists
  choose inner listed ordered' complete' using each
  refine ⟨placed.flatMap fun p => (inner p.2).map fun q => ((p.1, q.1), q.2), ?_, ?_, ?_⟩
  · rw [List.map_flatMap, List.flatMap_map]
    simp [Function.comp_def, ← listed]
  · rw [List.pairwise_flatMap]
    constructor
    · intro p _
      rw [List.pairwise_map]
      refine (ordered' p.2).imp ?_
      intro q q' less
      exact Prod.Lex.right p.1 less
    · refine ordered.imp ?_
      intro p q less e here e' there
      obtain ⟨_, -, rfl⟩ := List.mem_map.1 here
      obtain ⟨_, -, rfl⟩ := List.mem_map.1 there
      exact Prod.Lex.left _ _ less
  · rintro ⟨i, k⟩ y
    rw [List.mem_flatMap]
    constructor
    · rintro ⟨⟨j, x⟩, outer, mem⟩
      obtain ⟨⟨k', y'⟩, inside, same⟩ := List.mem_map.1 mem
      simp only [Prod.mk.injEq] at same
      obtain ⟨⟨rfl, rfl⟩, rfl⟩ := same
      exact ⟨x, (complete j x).1 outer, (complete' x k' y').1 inside⟩
    · rintro ⟨x, held, held'⟩
      refine ⟨(i, x), (complete i x).2 held, List.mem_map.2 ⟨(k, y), ?_, rfl⟩⟩
      exact (complete' x k y).2 held'

/-- A part of a list without repetition keeps its order. -/
theorem of_sublist [DecidableEq α] {ys : List α} (part : ys.Sublist xs) (distinct : xs.Nodup) :
    Lists (· < ·) (fun (i : Nat) x => xs[i]? = some x ∧ x ∈ ys) ys := by
  have same : xs.filter (· ∈ ys) = ys := by
    induction part with
    | slnil => rfl
    | cons a part ih =>
        obtain ⟨fresh, distinct⟩ := List.nodup_cons.1 distinct
        rw [List.filter_cons_of_neg (by simpa using fun mem => fresh (part.subset mem))]
        exact ih distinct
    | @cons_cons zs xs a part ih =>
        obtain ⟨fresh, distinct⟩ := List.nodup_cons.1 distinct
        have others : xs.filter (· ∈ a :: zs) = xs.filter (· ∈ zs) := by
          refine List.filter_congr fun x mem => ?_
          have apart : x ≠ a := fun h => fresh (h ▸ mem)
          simp [apart]
        rw [List.filter_cons_of_pos (by simp), others, ih distinct]
  have filtered := (positions xs).filter (· ∈ ys)
  rw [same] at filtered
  exact filtered.congr fun i x => by simp

end Lists

end DroneTactics
