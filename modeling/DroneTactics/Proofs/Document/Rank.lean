import DroneTactics.Document.Value
import Mathlib.Algebra.Order.Ring.Unbundled.Rat
import Mathlib.Data.List.Lex
import Mathlib.Order.Compare
import Mathlib.Order.WithBot

/-!
What the equality and the order of the atoms of JSON rest on. An atom has a rank: the size of a
number, or the code points of a text. Numbers and texts are ordered linearly, each kind for
itself, and nothing is ordered against another kind. Atoms are equal when their ranks are, and
ordered as their ranks are.
-/

namespace DroneTactics

/-! ### Sizes and texts -/

abbrev linearly {α : Type} [LinearOrder α] (x y : α) : Ordering := cmp x y

theorem ite_eq_linearly {α : Type} [LinearOrder α] {x y : α} [Decidable (x < y)]
    [Decidable (x = y)] :
    (if x < y then Ordering.lt else if x = y then .eq else .gt) = linearly x y := by
  rcases lt_trichotomy x y with below | rfl | above
  · rw [if_pos below]
    exact below.cmp_eq_lt.symm
  · rw [if_neg (lt_irrefl x), if_pos rfl]
    exact (cmp_self_eq_eq x).symm
  · rw [if_neg above.asymm, if_neg above.ne']
    exact above.cmp_eq_gt.symm

theorem linearly_swap {α : Type} [LinearOrder α] (x y : α) :
    (linearly x y).swap = linearly y x := cmp_swap x y

def Magnitude.extended : Magnitude → WithBot (WithTop ℚ)
  | .belowAll => ⊥
  | .rational q => ((q : WithTop ℚ) : WithBot (WithTop ℚ))
  | .aboveAll => ((⊤ : WithTop ℚ) : WithBot (WithTop ℚ))

theorem Magnitude.extended_inj {p q : Magnitude} : p.extended = q.extended ↔ p = q := by
  cases p <;> cases q <;> simp [extended]

theorem Magnitude.order_eq_linearly (p q : Magnitude) :
    p.order q = linearly p.extended q.extended := by
  rw [← ite_eq_linearly]
  cases p <;> cases q <;> simp [order, extended]

namespace Text

theorem isBelow_eq_decide (ms ns : List Nat) : isBelow ms ns = decide (ms < ns) := by
  induction ms generalizing ns with
  | nil => cases ns <;> simp [isBelow]
  | cons m ms ih => cases ns <;> simp [isBelow, ih, List.cons_lt_cons_iff]

theorem isHalfUnit_iff {unit : Nat} : isHalfUnit unit = true ↔ 0xd800 ≤ unit ∧ unit < 0xe000 := by
  rw [isHalfUnit, Bool.and_eq_true, decide_eq_true_eq, decide_eq_true_eq, firstUnit]

/-- Neither the mark nor a loose one has the number of a half. -/
theorem spelled_of_isHalfUnit {unit : Nat} (half : isHalfUnit unit = true) :
    spelled unit = [mark, Char.ofNat (firstHalf + (unit - firstUnit))] := by
  have below : unit < 0xe000 := (isHalfUnit_iff.1 half).2
  have apart : unit ≠ mark.toNat := (below.trans (by decide)).ne
  have tight : unit ≠ looseMark := (below.trans (by decide)).ne
  rw [spelled, if_neg apart, if_neg tight, if_pos half]

theorem spelled_of_marked? {c : Char} {code : Nat} (after : marked? c = some code) :
    spelled code = [mark, c] := by
  unfold marked? at after
  split_ifs at after with twice stands
  · rw [← Option.some.inj after, twice]
    exact if_pos rfl
  · rw [Bool.and_eq_true, decide_eq_true_eq, decide_eq_true_eq] at stands
    have back : firstHalf + (c.toNat - firstHalf) = c.toNat := Nat.add_sub_of_le stands.1
    have unit : isHalfUnit (c.toNat - firstHalf + firstUnit) = true := by
      rw [isHalfUnit_iff]
      unfold firstHalf at stands ⊢
      unfold firstUnit
      omega
    rw [← Option.some.inj after, spelled_of_isHalfUnit unit, Nat.add_sub_cancel, back,
      Char.ofNat_toNat]

theorem spelled_looseMark : spelled looseMark = [mark] := rfl

/-- A character but the mark spells itself, since it has not the number of a half. -/
theorem spelled_toNat {c : Char} (other : c ≠ mark) : spelled c.toNat = [c] := by
  have valid : c.toNat < 0xd800 ∨ 0xdfff < c.toNat ∧ c.toNat < 0x110000 := c.valid
  have apart : c.toNat ≠ mark.toNat := fun same => other (Char.toNat_inj.1 same)
  have tight : c.toNat ≠ looseMark := by
    unfold looseMark
    omega
  have whole : ¬isHalfUnit c.toNat = true := by
    rw [isHalfUnit_iff]
    omega
  rw [spelled, if_neg apart, if_neg tight, if_neg whole, Char.ofNat_toNat]

/-- Characters are what their numbers spell. -/
theorem flatMap_spelled_codes (cs : List Char) : (codes cs).flatMap spelled = cs := by
  induction cs using codes.induct with
  | case1 => rfl
  | case2 c =>
      by_cases last : c = mark
      · subst last
        rfl
      · simp [codes, last, spelled_toNat]
  | case3 d cs code after ih => simp [codes, after, spelled_of_marked? after, ih]
  | case4 d cs after ih => simp [codes, after, ih, spelled_looseMark]
  | case5 c d cs other ih => simp [codes, other, spelled_toNat other, ih]

theorem codePoints_inj {s t : String} : codePoints s = codePoints t ↔ s = t := by
  refine ⟨fun same => String.toList_inj.1 ?_, congrArg codePoints⟩
  rw [← flatMap_spelled_codes s.toList, ← flatMap_spelled_codes t.toList]
  exact congrArg (List.flatMap spelled) same

end Text

/-! ### Ranks -/

/-- What the equality and the order of an atom look at. -/
inductive Rank where
  | nothing
  | size (x : WithBot (WithTop ℚ))
  | text (codes : List ℕ)
  deriving DecidableEq

namespace Rank

def order? : Rank → Rank → Option Ordering
  | .size x, .size y => some (linearly x y)
  | .text ms, .text ns => some (linearly ms ns)
  | _, _ => none

variable {r q p : Rank}

theorem order?_swap (r q : Rank) : q.order? r = (r.order? q).map Ordering.swap := by
  cases r <;> cases q
  case size.size x y => exact congrArg some (linearly_swap x y).symm
  case text.text ms ns => exact congrArg some (linearly_swap ms ns).symm
  all_goals rfl

theorem eq_of_order?_eq (order : r.order? q = some .eq) : r = q := by
  cases r <;> cases q <;> simp_all [order?]

theorem order?_self_ne_lt (r : Rank) : r.order? r ≠ some .lt := by
  cases r <;> simp [order?]

theorem order?_trans (first : r.order? q = some .lt) (second : q.order? p = some .lt) :
    r.order? p = some .lt := by
  cases r <;> cases q <;> cases p <;> simp_all only [order?, Option.some.injEq, cmp_eq_lt_iff,
    reduceCtorEq]
  case size x y z => exact first.trans second
  case text ms ns ks => exact first.trans second

end Rank

/-! ### Atoms -/

/-- The atoms that JSON has. What is no number is left out. -/
inductive Atom.IsJson : Atom → Prop where
  | null : IsJson .null
  | bool (b : Bool) : IsJson (.bool b)
  | int (n : Int) : IsJson (.int n)
  | float {x : Binary64} (number : x ≠ .nan) : IsJson (.float x)
  | str (s : String) : IsJson (.str s)

namespace Atom

def rank : Atom → Rank
  | .str s => .text (Text.codePoints s)
  | a =>
    match a.magnitude? with
    | some m => .size m.extended
    | none => .nothing

variable {a b : Atom}

inductive Kind : Atom → Prop where
  | null : Kind .null
  | number {a : Atom} {m : Magnitude} (size : a.magnitude? = some m) : Kind a
  | text (s : String) : Kind (.str s)

theorem IsJson.kind (json : a.IsJson) : Kind a := by
  cases json with
  | null => exact .null
  | bool b => exact .number rfl
  | int n => exact .number rfl
  | @float x number =>
      cases x with
      | finite negative m e => exact .number rfl
      | infinite negative => exact .number rfl
      | nan => exact absurd rfl number
  | str s => exact .text s

@[simp] theorem magnitude?_null : null.magnitude? = none := rfl

@[simp] theorem magnitude?_str (s : String) : (str s).magnitude? = none := rfl

@[simp] theorem rank_null : null.rank = .nothing := rfl

@[simp] theorem rank_str (s : String) : (str s).rank = .text (Text.codePoints s) := rfl

section

variable {m : Magnitude}

theorem rank_of_magnitude (size : a.magnitude? = some m) : a.rank = .size m.extended := by
  unfold rank
  split
  case h_1 => cases size
  case h_2 => rw [size]

theorem same_of_magnitude_left (size : a.magnitude? = some m) (b : Atom) :
    a.same b = decide (b.magnitude? = some m) := by
  unfold same
  split
  case h_5 => rw [size]; cases b.magnitude? <;> simp [eq_comm]
  all_goals cases size

theorem same_of_magnitude_right (a : Atom) (size : b.magnitude? = some m) :
    a.same b = decide (a.magnitude? = some m) := by
  unfold same
  split
  case h_5 => rw [size]; cases a.magnitude? <;> simp
  all_goals cases size

theorem order?_of_magnitude_left (size : a.magnitude? = some m) (b : Atom) :
    a.order? b = b.magnitude?.map m.order := by
  unfold order?
  split
  case h_4 => rw [size]; cases b.magnitude? <;> rfl
  all_goals cases size

theorem order?_of_magnitude_right (a : Atom) (size : b.magnitude? = some m) :
    a.order? b = a.magnitude?.map (·.order m) := by
  unfold order?
  split
  case h_4 => rw [size]; cases a.magnitude? <;> rfl
  all_goals cases size

end

/-- Atoms are equal when their ranks are. -/
theorem same_eq_rank (left : a.IsJson) (right : b.IsJson) :
    a.same b = decide (a.rank = b.rank) := by
  cases left.kind with
  | number size =>
      rw [same_of_magnitude_left size, rank_of_magnitude size]
      cases right.kind with
      | number other =>
          rw [other, rank_of_magnitude other]
          simp [Magnitude.extended_inj, eq_comm]
      | null => simp
      | text s => simp
  | null =>
      cases right.kind with
      | number size => simp [same_of_magnitude_right _ size, rank_of_magnitude size]
      | null => rfl
      | text s => rfl
  | text s =>
      cases right.kind with
      | number size => simp [same_of_magnitude_right _ size, rank_of_magnitude size]
      | null => rfl
      | text t => simp [same, Text.codePoints_inj]

/-- Atoms are ordered as their ranks are. -/
theorem order?_eq_rank (left : a.IsJson) (right : b.IsJson) :
    a.order? b = a.rank.order? b.rank := by
  cases left.kind with
  | number size =>
      rw [order?_of_magnitude_left size, rank_of_magnitude size]
      cases right.kind with
      | number other =>
          rw [other, rank_of_magnitude other]
          simp [Rank.order?, Magnitude.order_eq_linearly]
      | null => rfl
      | text s => rfl
  | null =>
      cases right.kind with
      | number size => simp [order?_of_magnitude_right _ size, rank_of_magnitude size, Rank.order?]
      | null => rfl
      | text s => rfl
  | text s =>
      cases right.kind with
      | number size => simp [order?_of_magnitude_right _ size, rank_of_magnitude size, Rank.order?]
      | null => rfl
      | text t =>
          simp only [order?, rank_str, Rank.order?, Text.precedes, Text.isBelow_eq_decide,
            decide_eq_true_eq, ← ite_eq_linearly, Text.codePoints_inj]

end Atom

end DroneTactics
