/-!
Named lists in the order in which the names were first given: the drones of a
board by lane, and its upgrades by drone type. A name occurs once, so what a name
stands for does not depend on where it is looked for, and a name that is not
listed stands for the empty list.
-/

namespace DroneTactics

/-- Lists under distinct names, in order. -/
structure Roster (α : Type) where
  entries : List (String × List α)
  nodup : (entries.map Prod.fst).Nodup
  deriving DecidableEq

namespace Roster

variable {α : Type}

def empty : Roster α := ⟨[], by simp⟩

instance : EmptyCollection (Roster α) := ⟨empty⟩

instance : Inhabited (Roster α) := ⟨empty⟩

def names (r : Roster α) : List String := r.entries.map Prod.fst

def get (r : Roster α) (name : String) : List α := (r.entries.lookup name).getD []

/-- The entries with a name given a list: a known name keeps its place, a new one goes last. -/
def setEntry (name : String) (xs : List α) :
    List (String × List α) → List (String × List α)
  | [] => [(name, xs)]
  | (n, ys) :: rest => if n = name then (n, xs) :: rest else (n, ys) :: setEntry name xs rest

theorem names_setEntry (name : String) (xs : List α) (es : List (String × List α)) :
    (setEntry name xs es).map Prod.fst =
      if name ∈ es.map Prod.fst then es.map Prod.fst else es.map Prod.fst ++ [name] := by
  induction es with
  | nil => simp [setEntry]
  | cons e rest ih =>
    obtain ⟨n, ys⟩ := e
    by_cases h : n = name
    · simp [setEntry, h]
    · have h' : ¬name = n := fun hn => h hn.symm
      simp only [setEntry, if_neg h, List.map_cons, ih, List.mem_cons, h', false_or]
      split <;> rfl

theorem lookup_setEntry (name : String) (xs : List α) (es : List (String × List α))
    (other : String) :
    (setEntry name xs es).lookup other =
      if other = name then some xs else es.lookup other := by
  induction es with
  | nil =>
    by_cases h : other = name
    · simp [setEntry, h]
    · simp [setEntry, h, List.lookup_cons, beq_eq_false_iff_ne.2 h]
  | cons e rest ih =>
    obtain ⟨n, ys⟩ := e
    by_cases h : n = name
    · by_cases ho : other = name
      · simp [setEntry, h, ho]
      · simp [setEntry, h, List.lookup_cons, ho, beq_eq_false_iff_ne.2 ho]
    · by_cases ho : other = n
      · subst ho
        simp [setEntry, h]
      · simp [setEntry, h, List.lookup_cons, beq_eq_false_iff_ne.2 ho, ih]

def set (r : Roster α) (name : String) (xs : List α) : Roster α where
  entries := setEntry name xs r.entries
  nodup := by
    rw [names_setEntry]
    split
    · exact r.nodup
    · rename_i h
      exact List.nodup_append.2 ⟨r.nodup, by simp, by
        intro a ha b hb hab
        simp only [List.mem_singleton] at hb
        exact h (hb ▸ hab ▸ ha)⟩

/-- The roster of a list of pairs; of a repeated name the last list stands, at the first place. -/
def ofList (pairs : List (String × List α)) : Roster α :=
  pairs.foldl (fun r pair => r.set pair.1 pair.2) ∅

def toList (r : Roster α) : List (String × α) :=
  r.entries.flatMap fun entry => entry.2.map (entry.1, ·)

/-- The first element that satisfies a test, and the entries without it. -/
def pick? (p : α → Bool) : List (String × List α) → Option (α × List (String × List α))
  | [] => none
  | (n, xs) :: rest =>
    match xs.find? p with
    | some x => some (x, (n, xs.eraseP p) :: rest)
    | none => (pick? p rest).map fun found => (found.1, (n, xs) :: found.2)

theorem names_of_pick? {p : α → Bool} {es es' : List (String × List α)} {x : α}
    (h : pick? p es = some (x, es')) : es'.map Prod.fst = es.map Prod.fst := by
  induction es generalizing es' with
  | nil => simp [pick?] at h
  | cons e rest ih =>
    obtain ⟨n, xs⟩ := e
    rw [pick?] at h
    split at h
    · cases h
      rfl
    · cases hr : pick? p rest with
      | none => simp [hr] at h
      | some found =>
        obtain ⟨y, ys⟩ := found
        simp only [hr, Option.map_some, Option.some.injEq, Prod.mk.injEq] at h
        rw [← h.2]
        simp [ih (h.1 ▸ hr)]

/-- The roster with the first element that satisfies a test moved to the end of a
name's list; unchanged if there is none. -/
def relocate (r : Roster α) (p : α → Bool) (name : String) : Roster α :=
  match h : pick? p r.entries with
  | none => r
  | some (x, es) =>
    let rest : Roster α := ⟨es, names_of_pick? h ▸ r.nodup⟩
    rest.set name (rest.get name ++ [x])

theorem get_set (r : Roster α) (name : String) (xs : List α) (other : String) :
    (r.set name xs).get other = if other = name then xs else r.get other := by
  simp only [get, set, lookup_setEntry]
  split <;> rfl

@[simp] theorem get_set_self (r : Roster α) (name : String) (xs : List α) :
    (r.set name xs).get name = xs := by
  simp [get_set]

theorem names_set (r : Roster α) (name : String) (xs : List α) :
    (r.set name xs).names = if name ∈ r.names then r.names else r.names ++ [name] :=
  names_setEntry name xs r.entries

end Roster

end DroneTactics
