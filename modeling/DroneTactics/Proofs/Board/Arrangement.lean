import DroneTactics.Proofs.Board.MovedTwice
import DroneTactics.Proofs.Targeting.Resemblance
import Mathlib.Data.List.Nodup

/-!
How a board is written down. The lanes of a board can be listed in any order, and a lane in
which nothing stands may be listed or left out. What is looked up by lane does not depend on
that. Moving a drone does: the drone that is met first moves, and the lane to which it goes may
be new to the list. If no id occurs twice on the board, the drones of each lane are the same
after the move all the same.
-/

namespace DroneTactics

namespace Roster

variable {α : Type} {p : α → Bool} {name other : String} {x : α} {xs : List α} {r r' : Roster α}

def filled (r : Roster α) : List (String × List α) := r.entries.filter fun e => !e.2.isEmpty

theorem mem_filled_iff : (name, xs) ∈ r.filled ↔ r.get name = xs ∧ xs ≠ [] := by
  have found : (name, xs) ∈ r.entries ↔ r.entries.lookup name = some xs :=
    (lookup_eq_some_iff r.nodup).symm
  rw [filled, List.mem_filter, found, get]
  constructor
  · rintro ⟨listed, some_there⟩
    rw [listed]
    exact ⟨rfl, by simpa using some_there⟩
  · rintro ⟨rfl, some_there⟩
    cases listed : r.entries.lookup name with
    | none => simp [listed] at some_there
    | some ys => simpa [listed] using some_there

theorem nodup_filled (r : Roster α) : r.filled.Nodup :=
  (List.Nodup.of_map Prod.fst r.nodup).filter _

/-- Rosters that list the same in some order are those that have the same under every name. -/
theorem perm_filled_iff : r.filled.Perm r'.filled ↔ ∀ name, r'.get name = r.get name := by
  rw [List.perm_ext_iff_of_nodup r.nodup_filled r'.nodup_filled]
  constructor
  · intro same name
    by_cases empty : r.get name = []
    · apply Classical.byContradiction
      intro differ
      have there : (name, r'.get name) ∈ r'.filled := mem_filled_iff.2 ⟨rfl, empty ▸ differ⟩
      exact differ (mem_filled_iff.1 ((same _).2 there)).1.symm
    · exact (mem_filled_iff.1 ((same _).1 (mem_filled_iff.2 ⟨rfl, empty⟩))).1
  · rintro same ⟨name, xs⟩
    rw [mem_filled_iff, mem_filled_iff, same]

theorem toList_eq_listed_filled (r : Roster α) : r.toList = listed r.filled := by
  have entries (es : List (String × List α)) :
      listed es = listed (es.filter fun e => !e.2.isEmpty) := by
    induction es with
    | nil => rfl
    | cons e rest ih =>
        obtain ⟨n, xs⟩ := e
        cases xs with
        | nil => simpa using ih
        | cons x xs => simpa using ih
  exact entries r.entries

theorem perm_toList_of_filled (same : r.filled.Perm r'.filled) : r.toList.Perm r'.toList := by
  rw [toList_eq_listed_filled, toList_eq_listed_filled]
  exact same.flatMap_right _

theorem perm_matching (same : r.filled.Perm r'.filled) (p : α → Bool) :
    (r.matching p).Perm (r'.matching p) :=
  ((perm_toList_of_filled same).map Prod.snd).filter p

theorem filter_get_of_absent (absent : r.matching p = []) (name : String) :
    (r.get name).filter (!p ·) = r.get name := by
  refine List.filter_eq_self.2 fun x stands => ?_
  have listed : x ∈ r.toList.map Prod.snd := List.mem_map.2 ⟨_, mem_get_iff.1 stands, rfl⟩
  simpa using List.filter_eq_nil_iff.1 absent x listed

/-- If at most one element satisfies the test, all others are left in each list, and it is
added to the named one. -/
theorem get_relocate_of_few (few : r.matching p = [] ∨ ∃ x, r.matching p = [x]) :
    (r.relocate p name).get other =
      (r.get other).filter (!p ·) ++ if other = name then r.matching p else [] := by
  rcases few with absent | ⟨x, alone⟩
  · rw [relocate_of_none absent, filter_get_of_absent absent, absent, ite_self, List.append_nil]
  · rw [relocate_of_alone alone, get_set, alone]
    split
    case isTrue here => rw [here, get_without]
    case isFalse => rw [get_without, List.append_nil]

/-- Moving an element that alone satisfies the test keeps the lists equal. -/
theorem perm_filled_relocate (few : r.matching p = [] ∨ ∃ x, r.matching p = [x])
    (same : r.filled.Perm r'.filled) :
    (r.relocate p name).filled.Perm (r'.relocate p name).filled := by
  have matches_eq : r'.matching p = r.matching p := by
    have perm := perm_matching same p
    rcases few with absent | ⟨x, alone⟩
    · rw [absent] at perm ⊢
      exact perm.symm.eq_nil
    · rw [alone] at perm ⊢
      exact List.perm_singleton.1 perm.symm
  refine perm_filled_iff.2 fun other => ?_
  rw [get_relocate_of_few few, get_relocate_of_few (matches_eq ▸ few), matches_eq,
    perm_filled_iff.1 same]

end Roster

/-- The same board with its lanes listed in another order, and with other lanes listed in
which no drone stands. -/
structure Board.Rearranges (b c : Board) : Prop where
  drones : b.drones.filled.Perm c.drones.filled
  others : c = { b with drones := c.drones }

namespace Board.Rearranges

variable {b c : Board}

theorem player (same : b.Rearranges c) : c.player = b.player := by
  rw [same.others]

theorem resembles (same : b.Rearranges c) (viewer : PlayerId) : b.Resembles viewer c where
  player := same.player
  drones := Roster.perm_filled_iff.1 same.drones
  hand _ := by rw [same.others]
  sections := by rw [same.others]
  pool := by rw [same.others]
  upgrades := by rw [same.others]

theorem discard (same : b.Rearranges c) (cardId : String) :
    (b.discard cardId).Rearranges (c.discard cardId) where
  drones := same.drones
  others := by rw [Board.discard, same.others, Board.discard]

theorem moveDrone (same : b.Rearranges c)
    (distinct : (b.drones.toList.map fun e => e.2.id).Nodup) (id : String) (lane : LaneId) :
    (b.moveDrone id lane).Rearranges (c.moveDrone id lane) where
  drones := Roster.perm_filled_relocate (Roster.matching_of_nodup distinct id) same.drones
  others := by rw [Board.moveDrone, same.others, Board.moveDrone]

end Board.Rearranges

end DroneTactics
