import DroneTactics.Proofs.Fault
import DroneTactics.Targeting.Offer
import Mathlib.Algebra.Order.Ring.Rat
import Mathlib.Data.Rat.Cast.Order
import Mathlib.Tactic.MkIffOfInductiveProp

/-!
Room for upgrades. The rules say how many slots an upgrade of no stated size takes and how
often one may be applied. When they say so in integers, every sum is exact and every question
about room has an answer: a drone type has room if what is attached to it and what the card
needs is at most what it has, and the card has not been applied to it as often as it may be.
-/

namespace DroneTactics

/-! ### Amounts -/

namespace Amount

theorem order?_int (m n : Int) :
    (Atom.int m).order? (.int n) = some (if m < n then .lt else if m = n then .eq else .gt) := by
  simp [Atom.order?, Atom.magnitude?, Magnitude.order]

theorem isBelow_whole (m n : Int) : (whole m).isBelow (.whole n) = decide (m < n) := by
  rw [isBelow, toAtom, toAtom, order?_int, decide_eq_decide, Option.some.injEq]
  split
  case isTrue less => exact iff_of_true rfl less
  case isFalse more => exact iff_of_false (by split <;> simp) more

theorem isAtMost_whole (m n : Int) : (whole m).isAtMost (.whole n) = decide (m ≤ n) := by
  rw [isAtMost, toAtom, toAtom, order?_int, ← Bool.decide_or, decide_eq_decide, Option.some.injEq,
    Option.some.injEq]
  split
  case isTrue less => exact iff_of_true (.inl rfl) (Int.le_of_lt less)
  case isFalse more =>
      split
      case isTrue same => exact iff_of_true (.inr rfl) (Int.le_of_eq same)
      case isFalse other => exact iff_of_false (by simp) (by omega)

end Amount

/-- The rules reckon with integers: the slots that an upgrade of no stated size takes, and how
often one that does not say may be applied. -/
structure Rules.Counts (rules : Rules) (slots times : Int) : Prop where
  slotCost : Amount.ofValue rules.slotCost = .ok (.whole slots)
  maxApplications : Amount.ofValue rules.maxApplications = .ok (.whole times)

theorem Rules.counts_usual : ({} : Rules).Counts 1 1 := ⟨rfl, rfl⟩

/-- An integer that a card states, or the usual one when it states none or zero. -/
def orUsual (stated : Option Int) (usual : Int) : Int :=
  match stated with
  | some n => if n = 0 then usual else n
  | none => usual

def slotsTaken (slots : Int) : List Upgrade → Int
  | [] => 0
  | u :: rest => u.slots.getD slots + slotsTaken slots rest

/-- A drone type of a board has room for an upgrade card and has not had it as often as it may. -/
@[mk_iff]
structure Board.Fits (b : Board) (slots times : Int) (card : Card) (type : DroneType) :
    Prop where
  room : slotsTaken slots (b.upgradesOf type.name) + orUsual (some card.slots) slots ≤
    type.upgradeSlots
  again : (((b.upgradesOf type.name).filter fun u => u.cardId = card.id).length : Int) <
    orUsual card.maxApplications times

instance (b : Board) (slots times : Int) (card : Card) (type : DroneType) :
    Decidable (b.Fits slots times card type) :=
  decidable_of_iff _ (Board.fits_iff b slots times card type).symm

namespace Situation

variable {rules : Rules} {slots times : Int}

theorem ofValue_statedOr {usual : Value} {n : Int} (whole : Amount.ofValue usual = .ok (.whole n))
    (stated : Option Int) :
    Amount.ofValue (statedOr stated usual) = .ok (.whole (orUsual stated n)) := by
  cases stated with
  | none => exact whole
  | some m =>
      simp only [statedOr, orUsual]
      split
      · exact whole
      · rfl

/-- The slots that are used are counted one upgrade after the other. -/
theorem slotsUsed_eq_ok (counts : rules.Counts slots times) (upgrades : List Upgrade) :
    slotsUsed rules upgrades = .ok (.whole (slotsTaken slots upgrades)) := by
  have size : ∀ u : Upgrade, Amount.ofValue
      (match u.slots with | some n => .int n | none => rules.slotCost) =
        .ok (.whole (u.slots.getD slots)) := by
    intro u
    cases u.slots with
    | none => exact counts.slotCost
    | some n => rfl
  rw [← Int.zero_add (slotsTaken slots upgrades), slotsUsed]
  -- The slots of the upgrades before are carried along.
  generalize (0 : Int) = total
  induction upgrades generalizing total with
  | nil =>
      rw [slotsTaken, Int.add_zero]
      rfl
  | cons u us ih =>
      rw [List.foldlM_cons, slotsTaken, ← Int.add_assoc]
      exact bind_eq_ok_iff.2 ⟨_, bind_eq_ok_iff.2 ⟨_, size u, rfl⟩, ih (total + u.slots.getD slots)⟩

theorem admits_eq_ok (counts : rules.Counts slots times) (card : Card) (board : Board)
    (type : DroneType) :
    admits rules card board type = .ok (decide (board.Fits slots times card type)) := by
  simp only [admits, slotsUsed_eq_ok counts, ofValue_statedOr counts.slotCost,
    ofValue_statedOr counts.maxApplications]
  refine bind_eq_ok_iff.2 ⟨_, rfl, bind_eq_ok_iff.2 ⟨_, rfl, bind_eq_ok_iff.2 ⟨_, rfl, ?_⟩⟩⟩
  rw [Amount.isAtMost_whole]
  split
  case isTrue room =>
      have room := of_decide_eq_true room
      refine bind_eq_ok_iff.2 ⟨_, rfl, pure_eq_ok_iff.2 ?_⟩
      rw [Amount.isBelow_whole, decide_eq_decide, Board.fits_iff, and_iff_right room]
  case isFalse full =>
      refine pure_eq_ok_iff.2 (decide_eq_false fun fits => full (decide_eq_true fits.room)).symm

/-- The drone types that can take a card are those that it fits. -/
theorem slotTargetsOf_eq_ok (counts : rules.Counts slots times) {s : Situation} {board : Board}
    (owned : s.field.board? s.acting = some board) (card : Card) :
    s.slotTargetsOf rules card =
      .ok ((board.pool.filter fun type => board.Fits slots times card type).map
        (.ofDroneType · s.acting)) := by
  rw [slotTargetsOf, owned]
  refine bind_eq_ok_iff.2 ⟨_, filterM_eq_ok fun type _ => admits_eq_ok counts card board type, rfl⟩

/-- When the rules reckon with integers it can always be said what has room. -/
theorem exists_slotTargets (counts : rules.Counts slots times) (s : Situation) :
    ∃ offers, s.slotTargets rules = .ok offers := by
  unfold slotTargets
  split
  case h_2 => exact ⟨[], rfl⟩
  case h_1 card _ =>
      cases owned : s.field.board? s.acting with
      | some board => exact ⟨_, slotTargetsOf_eq_ok counts owned card⟩
      | none => exact ⟨[], by rw [slotTargetsOf, owned]; rfl⟩

end Situation

end DroneTactics
