import DroneTactics.Proofs.Document.Rank
import Mathlib.Data.List.Nodup
import Mathlib.Data.List.Perm.Subperm

/-!
Equality of JSON values. Lists are equal item by item, and objects when each key stands for
equal values in both, in whatever order the keys were written. This is an equivalence, although
equal values need not be written alike: a truth value equals the number one or zero.
-/

namespace DroneTactics

def Entries.Texts (es : Entries) : Prop := ∀ e ∈ es, ∃ name, e.1 = .str name

structure Entries.Keyed (es : Entries) : Prop where
  texts : es.Texts
  distinct : (es.map Prod.fst).Nodup

/-- The values that JSON has: atoms, lists and objects, nested to any depth. -/
inductive Value.IsJson : Value → Prop where
  | atom {a : Atom} (json : a.IsJson) : IsJson (.atom a)
  | list {items : List Value} (each : ∀ v ∈ items, v.IsJson) : IsJson (.list items)
  | map {entries : Entries} (keyed : entries.Keyed) (each : ∀ e ∈ entries, e.2.IsJson) :
      IsJson (.map entries)

/-! ### Look-ups -/

namespace Entries

theorem sameKey_str (name : String) (key : Atom) :
    (key.sameKey (.str name)) = decide (key = .str name) := by
  cases key <;> simp [Atom.sameKey, Atom.same, Atom.magnitude?]

theorem texts_cons_iff {key : Atom} {v : Value} {es : Entries} :
    Texts ((key, v) :: es) ↔ (∃ name, key = .str name) ∧ es.Texts :=
  List.forall_mem_cons

/-- Among distinct keys a text stands for the value that is written with it. -/
theorem Keyed.get?_eq_some_iff {es : Entries} (keyed : es.Keyed) {name : String} {v : Value} :
    es.get? (.str name) = some v ↔ (Atom.str name, v) ∈ es := by
  simp only [get?, sameKey_str, Option.map_eq_some_iff]
  constructor
  · rintro ⟨⟨key, w⟩, found, rfl⟩
    have here : key = .str name := by simpa using List.find?_some found
    exact here ▸ List.mem_of_find?_eq_some found
  · intro mem
    have present : (es.find? fun e => decide (e.1 = .str name)).isSome :=
      List.find?_isSome.2 ⟨_, mem, decide_eq_true rfl⟩
    obtain ⟨e, found⟩ := Option.isSome_iff_exists.1 present
    have here : e.1 = .str name := by simpa using List.find?_some found
    have only := List.inj_on_of_nodup_map keyed.distinct (List.mem_of_find?_eq_some found) mem here
    exact ⟨e, found, congrArg Prod.snd only⟩

end Entries

namespace Value

variable {a b c : Value}

/-! ### Parts -/

/-- Lists are equal when they are equally long and equal at each position. -/
theorem sameItems_iff {xs ys : List Value} : sameItems xs ys = true ↔
    xs.length = ys.length ∧
      ∀ (i : ℕ) (x y : Value), xs[i]? = some x → ys[i]? = some y → x.same y = true := by
  induction xs generalizing ys with
  | nil => cases ys <;> simp [sameItems]
  | cons x xs ih =>
      cases ys with
      | nil => simp [sameItems]
      | cons y ys =>
          rw [sameItems, Bool.and_eq_true, ih, List.length_cons, List.length_cons,
            Nat.add_right_cancel_iff, and_left_comm]
          refine and_congr_right fun _ => ?_
          constructor
          · rintro ⟨here, later⟩ (_ | i) x' y' left right
            · cases left
              cases right
              exact here
            · exact later i x' y' left right
          · exact fun each => ⟨each 0 x y rfl rfl, fun i => each (i + 1)⟩

/-- Entries are among those of an object when each key stands for an equal value there. -/
theorem sameEntries_iff {es fs : Entries} (left : es.Keyed) (right : fs.Keyed) :
    sameEntries es fs = true ↔ ∀ e ∈ es, ∃ w, (e.1, w) ∈ fs ∧ e.2.same w = true := by
  have texts := left.texts
  clear left
  induction es with
  | nil => simp [sameEntries]
  | cons e es ih =>
      obtain ⟨key, v⟩ := e
      obtain ⟨⟨name, rfl⟩, later⟩ := Entries.texts_cons_iff.1 texts
      rw [sameEntries, Bool.and_eq_true, List.forall_mem_cons]
      refine and_congr ?_ (ih later)
      simp only [← right.get?_eq_some_iff]
      cases fs.get? (.str name) <;> simp

theorem same_map_iff {es fs : Entries} (left : es.Keyed) (right : fs.Keyed) :
    (Value.map es).same (.map fs) = true ↔ es.length = fs.length ∧
      ∀ e ∈ es, ∃ w, (e.1, w) ∈ fs ∧ e.2.same w = true := by
  rw [same, Bool.and_eq_true, beq_iff_eq, sameEntries_iff left right]

/-! ### An equivalence -/

theorem same_refl (json : a.IsJson) : a.same a = true := by
  induction json with
  | atom json => rw [same, Atom.same_eq_rank json json, decide_eq_true rfl]
  | list _ ih =>
      rw [same, sameItems_iff]
      refine ⟨rfl, fun i x y left right => ?_⟩
      obtain rfl : x = y := Option.some.inj (left.symm.trans right)
      exact ih x (List.mem_of_getElem? left)
  | map keyed _ ih =>
      rw [same_map_iff keyed keyed]
      exact ⟨rfl, fun e mem => ⟨e.2, mem, ih e mem⟩⟩

theorem same_symm (left : a.IsJson) (right : b.IsJson) (equal : a.same b = true) :
    b.same a = true := by
  induction left generalizing b with
  | atom left =>
      cases right with
      | atom right =>
          rw [same, Atom.same_eq_rank left right, decide_eq_true_iff] at equal
          rw [same, Atom.same_eq_rank right left, decide_eq_true equal.symm]
      | list | map => simp [same] at equal
  | list _ ih =>
      cases right with
      | list each =>
          rw [same, sameItems_iff] at equal ⊢
          obtain ⟨length, equal⟩ := equal
          exact ⟨length.symm, fun i y x right left => ih x (List.mem_of_getElem? left)
            (each y (List.mem_of_getElem? right)) (equal i x y left right)⟩
      | atom | map => simp [same] at equal
  | @map es keyed _ ih =>
      cases right with
      | @map fs keyed' each =>
          rw [same_map_iff keyed keyed'] at equal
          obtain ⟨length, equal⟩ := equal
          rw [same_map_iff keyed' keyed]
          refine ⟨length.symm, fun f mem => ?_⟩
          -- As many distinct keys are all of them, so each key of the other object is met.
          have subset : es.map Prod.fst ⊆ fs.map Prod.fst := by
            intro key mem
            obtain ⟨e, here, rfl⟩ := List.mem_map.1 mem
            obtain ⟨w, there, -⟩ := equal e here
            exact List.mem_map.2 ⟨_, there, rfl⟩
          have perm := (keyed.distinct.subperm subset).perm_of_length_le (by simp [length])
          obtain ⟨e, here, key⟩ := List.mem_map.1 (perm.mem_iff.2 (List.mem_map_of_mem mem))
          obtain ⟨w, there, same⟩ := equal e here
          obtain rfl : (e.1, w) = f := List.inj_on_of_nodup_map keyed'.distinct there mem key
          exact ⟨e.2, here, ih e here (each _ mem) same⟩
      | atom | list => simp [same] at equal

theorem same_trans (first : a.IsJson) (second : b.IsJson) (third : c.IsJson)
    (equal : a.same b = true) (next : b.same c = true) : a.same c = true := by
  induction first generalizing b c with
  | atom first =>
      cases second with
      | atom second =>
          cases third with
          | atom third =>
              rw [same, Atom.same_eq_rank first second, decide_eq_true_iff] at equal
              rw [same, Atom.same_eq_rank second third, decide_eq_true_iff] at next
              rw [same, Atom.same_eq_rank first third, decide_eq_true (equal.trans next)]
          | list | map => simp [same] at next
      | list | map => simp [same] at equal
  | list _ ih =>
      cases second with
      | @list ys each =>
          cases third with
          | list each' =>
              rw [same, sameItems_iff] at equal next ⊢
              refine ⟨equal.1.trans next.1, fun i x z left right => ?_⟩
              obtain ⟨bound, -⟩ := List.getElem?_eq_some_iff.1 left
              have between : ys[i]? = some ys[i] := List.getElem?_eq_getElem (equal.1 ▸ bound)
              exact ih x (List.mem_of_getElem? left) (each _ (List.mem_of_getElem? between))
                (each' z (List.mem_of_getElem? right)) (equal.2 i x _ left between)
                (next.2 i _ z between right)
          | atom | map => simp [same] at next
      | atom | map => simp [same] at equal
  | map keyed _ ih =>
      cases second with
      | map keyed' each =>
          cases third with
          | map keyed'' each' =>
              rw [same_map_iff keyed keyed'] at equal
              rw [same_map_iff keyed' keyed''] at next
              rw [same_map_iff keyed keyed'']
              refine ⟨equal.1.trans next.1, fun e mem => ?_⟩
              obtain ⟨v, here, left⟩ := equal.2 e mem
              obtain ⟨w, there, right⟩ := next.2 _ here
              exact ⟨w, there, ih e mem (each _ here) (each' _ there) left right⟩
          | atom | list => simp [same] at next
      | atom | list => simp [same] at equal

theorem same_comm (left : a.IsJson) (right : b.IsJson) : a.same b = b.same a :=
  Bool.eq_iff_iff.2 ⟨same_symm left right, same_symm right left⟩

/-- Equal values equal the same values. -/
theorem same_congr_left (first : a.IsJson) (second : b.IsJson) (third : c.IsJson)
    (equal : a.same b = true) : a.same c = b.same c :=
  Bool.eq_iff_iff.2 ⟨same_trans second first third (same_symm first second equal),
    same_trans first second third equal⟩

end Value

end DroneTactics
