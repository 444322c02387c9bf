import DroneTactics.Proofs.Board.Relocation
import DroneTactics.Targeting.Situation

/-!
The boards that a cost leaves. A moved drone is in its new lane and in no other, a discarded
card is gone from its owner's hand, and no other drone is touched, so what is on the boards
afterwards was on them before.
-/

namespace DroneTactics

namespace Battlefield

/-- A field as the rules of the game keep it: the players are told apart by their names, and
on each board the drones by their ids. The same id may be on both boards. -/
structure Sound (f : Battlefield) : Prop where
  players : f.first.player ≠ f.second.player
  drones : ∀ b ∈ f.boards, (b.drones.toList.map fun e => e.2.id).Nodup

instance (f : Battlefield) : Decidable f.Sound :=
  decidable_of_iff (f.first.player ≠ f.second.player ∧
    ∀ b ∈ f.boards, (b.drones.toList.map fun e => e.2.id).Nodup)
    ⟨fun h => ⟨h.1, h.2⟩, fun h => ⟨h.players, h.drones⟩⟩

end Battlefield

namespace Payment

variable {p : Payment} {f : Battlefield} {b : Board} {id : String} {lane : LaneId}

def change (p : Payment) (b : Board) : Board :=
  match p.target.kind, p.destinationLane with
  | .card, _ => b.discard p.target.id
  | .drone, some lane => b.moveDrone p.target.id lane
  | _, _ => b

theorem change_cases (p : Payment) : (∀ b, p.change b = b) ∨
    (∀ b, p.change b = b.discard p.target.id) ∨
    ∃ lane, ∀ b, p.change b = b.moveDrone p.target.id lane := by
  unfold change
  split
  case h_1 => exact .inr (.inl fun b => rfl)
  case h_2 lane _ _ => exact .inr (.inr ⟨lane, fun b => rfl⟩)
  case h_3 => exact .inl fun b => rfl

@[simp] theorem player_change : (p.change b).player = b.player := by
  rcases change_cases p with stays | discards | ⟨lane, moves⟩
  · rw [stays]
  · rw [discards, Board.discard]
  · rw [moves, Board.moveDrone]

theorem applyTo_of_nobody (nobody : f.board? p.target.owner = none) : p.applyTo f = f := by
  simp only [applyTo, nobody]

theorem applyTo_of_owned (owned : f.board? p.target.owner = some b) :
    p.applyTo f = f.withBoard (p.change b) := by
  have unchanged := Battlefield.withBoard_self owned
  simp only [applyTo, owned, change]
  cases p.target.kind <;> cases p.destinationLane <;> simp [unchanged]

theorem applyTo_of_card (owned : f.board? p.target.owner = some b) (card : p.target.kind = .card) :
    p.applyTo f = f.withBoard (b.discard p.target.id) := by
  simp only [applyTo, owned, card]

theorem applyTo_of_moved (owned : f.board? p.target.owner = some b)
    (drone : p.target.kind = .drone) (moved : p.destinationLane = some lane) :
    p.applyTo f = f.withBoard (b.moveDrone p.target.id lane) := by
  simp only [applyTo, owned, drone, moved]

theorem applyTo_cases (p : Payment) (f : Battlefield) : p.applyTo f = f ∨
    ∃ b, f.board? p.target.owner = some b ∧
      (p.applyTo f = f.withBoard (b.discard p.target.id) ∨
        ∃ lane, p.applyTo f = f.withBoard (b.moveDrone p.target.id lane)) := by
  cases owned : f.board? p.target.owner with
  | none => exact .inl (applyTo_of_nobody owned)
  | some b =>
      rw [applyTo_of_owned owned]
      rcases change_cases p with stays | discards | ⟨lane, moves⟩
      · exact .inl (by rw [stays, Battlefield.withBoard_self owned])
      · exact .inr ⟨b, rfl, .inl (by rw [discards])⟩
      · exact .inr ⟨b, rfl, .inr ⟨lane, by rw [moves]⟩⟩

@[simp] theorem lanes_applyTo : (p.applyTo f).lanes = f.lanes := by
  rcases applyTo_cases p f with same | ⟨b, -, paid | ⟨lane, paid⟩⟩
  · rw [same]
  · rw [paid, Battlefield.lanes_withBoard]
  · rw [paid, Battlefield.lanes_withBoard]

/-- What neither a discard nor the move of the paying drone makes true or false of a board
is true of some board before and after paying alike. -/
theorem exists_board_applyTo_iff {P : Board → Prop}
    (discarded : ∀ b : Board, P (b.discard p.target.id) ↔ P b)
    (moved : ∀ (b : Board) lane, P (b.moveDrone p.target.id lane) ↔ P b) :
    (∃ b ∈ (p.applyTo f).boards, P b) ↔ ∃ b ∈ f.boards, P b := by
  rcases applyTo_cases p f with same | ⟨b, owned, paid | ⟨lane, paid⟩⟩
  · rw [same]
  · rw [paid]
    have player := (Battlefield.mem_boards_of_board? owned).2
    exact Battlefield.exists_board_withBoard_iff owned player (discarded b)
  · rw [paid]
    have player := (Battlefield.mem_boards_of_board? owned).2
    exact Battlefield.exists_board_withBoard_iff owned player (moved b lane)

/-- Paying takes no drone off the boards and brings none in. -/
theorem has_applyTo_iff : (p.applyTo f).Has id ↔ f.Has id := by
  refine exists_board_applyTo_iff (fun b => Iff.rfl) fun b lane => ?_
  have same : ∀ d, (∃ other, d ∈ (b.moveDrone p.target.id lane).dronesIn other) ↔
      ∃ other, d ∈ b.dronesIn other := fun d => Roster.exists_mem_get_relocate_iff
  constructor
  · rintro ⟨other, d, mem, named⟩
    obtain ⟨other, mem⟩ := (same d).1 ⟨other, mem⟩
    exact ⟨other, d, mem, named⟩
  · rintro ⟨other, d, mem, named⟩
    obtain ⟨other, mem⟩ := (same d).2 ⟨other, mem⟩
    exact ⟨other, d, mem, named⟩

/-- A drone of another id than the paying one's stands in the lanes of the field after
paying if it does before. -/
theorem holds_applyTo_iff (other : p.target.id ≠ id) : (p.applyTo f).Holds id ↔ f.Holds id := by
  rw [Battlefield.holds_iff, Battlefield.holds_iff, lanes_applyTo]
  refine exists_board_applyTo_iff (fun b => Iff.rfl) fun b lane => ?_
  have same : ∀ d l, d.id = id →
      (d ∈ (b.moveDrone p.target.id lane).dronesIn l ↔ d ∈ b.dronesIn l) := by
    rintro d l rfl
    exact Roster.mem_get_relocate_iff (by simpa using other.symm)
  constructor
  · rintro ⟨l, known, d, mem, named⟩
    exact ⟨l, known, d, (same d l named).1 mem, named⟩
  · rintro ⟨l, known, d, mem, named⟩
    exact ⟨l, known, d, (same d l named).2 mem, named⟩

theorem board?_applyTo_of_card (card : p.target.kind = .card) :
    (p.applyTo f).board? p.target.owner =
      (f.board? p.target.owner).map (Board.discard · p.target.id) := by
  cases owned : f.board? p.target.owner with
  | none =>
      rw [applyTo_of_nobody owned, owned, Option.map_none]
  | some b =>
      have player : (b.discard p.target.id).player = p.target.owner :=
        (Battlefield.mem_boards_of_board? owned).2
      rw [applyTo_of_card owned card, Battlefield.board?_withBoard owned player, Option.map_some]

theorem players_applyTo : (p.applyTo f).first.player = f.first.player ∧
    (p.applyTo f).second.player = f.second.player := by
  rcases applyTo_cases p f with same | ⟨b, -, paid | ⟨lane, paid⟩⟩
  · simp [same]
  · simp [paid]
  · simp [paid]

/-- Paying leaves sound boards. -/
theorem sound_applyTo (sound : f.Sound) : (p.applyTo f).Sound := by
  refine ⟨?_, ?_⟩
  · rw [players_applyTo.1, players_applyTo.2]
    exact sound.players
  · intro b board
    apply Classical.byContradiction
    intro repeated
    obtain ⟨before, listed, repeated⟩ := (exists_board_applyTo_iff
      (P := fun b => ¬(b.drones.toList.map fun e => e.2.id).Nodup) (fun b => Iff.rfl)
      fun b lane => not_congr Board.nodup_moveDrone_iff).1 ⟨b, board, repeated⟩
    exact repeated (sound.drones before listed)

/-- On sound boards a drone that paid by moving is in its new lane and in no other. -/
theorem lane_of_moved (sound : f.Sound) (drone : p.target.kind = .drone)
    (moved : p.destinationLane = some lane) (board : b ∈ (p.applyTo f).boards)
    (owner : b.player = p.target.owner) {d : Drone} {other : LaneId}
    (stands : d ∈ b.dronesIn other) (same : d.id = p.target.id) : other = lane := by
  have distinct : (p.applyTo f).first.player ≠ (p.applyTo f).second.player := by
    rw [players_applyTo.1, players_applyTo.2]
    exact sound.players
  have found : (p.applyTo f).board? p.target.owner = some b := by
    rw [← owner]
    exact Battlefield.board?_of_mem distinct board
  cases owned : f.board? p.target.owner with
  | none =>
      -- Nobody of that name has a board, so nothing was paid.
      rw [applyTo_of_nobody owned, owned] at found
      cases found
  | some before =>
      obtain ⟨listed, player⟩ := Battlefield.mem_boards_of_board? owned
      have player : (before.moveDrone p.target.id lane).player = p.target.owner := player
      rw [applyTo_of_moved owned drone moved, Battlefield.board?_withBoard owned player,
        Option.some.injEq] at found
      subst found
      exact Roster.name_of_mem_relocate (sound.drones before listed) (by simp) stands same

end Payment

end DroneTactics
