import DroneTactics.Board.Control
import Mathlib.Tactic.SplitIfs

/-!
Control of lanes in numbers of drones. A lane of the field belongs to a player exactly if the
player has more drones in it than the other one, and a player who controls a lane that the
other one has left has a drone in it.
-/

namespace DroneTactics

/-- The player with more drones in a lane leads there. -/
theorem leader_cases (a b : Board) (lane : LaneId) :
    (b.droneCount lane < a.droneCount lane ∧ leader a b lane = some a.player) ∨
    (a.droneCount lane < b.droneCount lane ∧ leader a b lane = some b.player) ∨
    (a.droneCount lane = b.droneCount lane ∧ leader a b lane = none) := by
  unfold leader
  split_ifs <;> simp <;> omega

theorem leader_comm (a b : Board) (lane : LaneId) : leader a b lane = leader b a lane := by
  rcases leader_cases a b lane with ⟨ahead, leads⟩ | ⟨behind, leads⟩ | ⟨even, leads⟩
  · rw [leads, leader, if_neg (Nat.lt_asymm ahead), if_pos ahead]
  · rw [leads, leader, if_pos behind]
  · rw [leads, leader, if_neg (by omega), if_neg (by omega)]

theorem leader_eq_some_iff {own opp : Board} (apart : own.player ≠ opp.player) {lane : LaneId} :
    leader own opp lane = some own.player ↔ opp.droneCount lane < own.droneCount lane := by
  rcases leader_cases own opp lane with ⟨ahead, leads⟩ | ⟨behind, leads⟩ | ⟨even, leads⟩
  · exact iff_of_true leads ahead
  · exact iff_of_false (by simpa [leads] using apart.symm) (Nat.lt_asymm behind)
  · exact iff_of_false (by simp [leads]) (by omega)

namespace Battlefield

def Faces (f : Battlefield) (own opp : Board) : Prop :=
  (own = f.first ∧ opp = f.second) ∨ (own = f.second ∧ opp = f.first)

variable {f : Battlefield} {own opp : Board} {lane : LaneId}

theorem Faces.symm (faces : f.Faces own opp) : f.Faces opp own :=
  (Or.symm faces).imp And.symm And.symm

theorem Faces.apart (faces : f.Faces own opp) (distinct : f.first.player ≠ f.second.player) :
    own.player ≠ opp.player := by
  rcases faces with ⟨rfl, rfl⟩ | ⟨rfl, rfl⟩
  · exact distinct
  · exact distinct.symm

/-- A player controls the lanes of the field in which he has more drones than the other one. -/
theorem control_eq_iff (faces : f.Faces own opp) (distinct : f.first.player ≠ f.second.player) :
    f.control lane = some own.player ↔
      lane ∈ f.lanes ∧ opp.droneCount lane < own.droneCount lane := by
  have leads : leader f.first f.second lane = leader own opp lane := by
    rcases faces with ⟨rfl, rfl⟩ | ⟨rfl, rfl⟩
    · rfl
    · exact leader_comm _ _ lane
  rw [control, laneControl, leads, ← leader_eq_some_iff (faces.apart distinct)]
  split
  case isTrue known => exact (and_iff_right known).symm
  case isFalse unknown => exact iff_of_false nofun fun h => unknown h.1

theorem clears_iff (faces : f.Faces own opp) (distinct : f.first.player ≠ f.second.player) :
    f.control.clears (some own.player) f.first f.second lane = true ↔
      lane ∈ f.lanes ∧ 0 < own.droneCount lane ∧ opp.droneCount lane = 0 := by
  have other : (if some f.first.player = some own.player then f.second else f.first) = opp := by
    rcases faces with ⟨rfl, rfl⟩ | ⟨rfl, rfl⟩
    · exact if_pos rfl
    · exact if_neg (by simpa using distinct)
  rw [LaneControl.clears, other, Bool.and_eq_true, decide_eq_true_eq, beq_iff_eq,
    control_eq_iff faces distinct]
  constructor
  · rintro ⟨⟨known, more⟩, none_there⟩
    exact ⟨known, none_there ▸ more, none_there⟩
  · rintro ⟨known, some_here, none_there⟩
    exact ⟨⟨known, none_there ▸ some_here⟩, none_there⟩

end Battlefield

namespace LaneControl

variable {control : LaneControl} {player : Option PlayerId} {lanes : List LaneId}

theorem satisfies_all_iff :
    control.satisfies player lanes (some "ALL") = true ↔ ∀ lane ∈ lanes, control lane = player := by
  simp [satisfies]

theorem satisfies_any_iff :
    control.satisfies player lanes (some "ANY") = true ↔ ∃ lane ∈ lanes, control lane = player := by
  simp [satisfies]

/-- What a word asks of some lanes, where an empty word asks for all of them. -/
theorem satisfies_iff {word : String} :
    control.satisfies player lanes (some (if word = "" then "ALL" else word)) = true ↔
      ((word = "ALL" ∨ word = "") ∧ ∀ lane ∈ lanes, control lane = player) ∨
      (word = "ANY" ∧ ∃ lane ∈ lanes, control lane = player) := by
  by_cases empty : word = ""
  · simp [empty, satisfies_all_iff]
  · rw [if_neg empty]
    by_cases all : word = "ALL"
    · simp [all, satisfies_all_iff]
    · by_cases any : word = "ANY"
      · simp [any, satisfies_any_iff]
      · -- Any other word asks for something that never holds.
        refine iff_of_false ?_ (by simp [empty, all, any])
        unfold satisfies
        split <;> simp_all

end LaneControl

end DroneTactics
