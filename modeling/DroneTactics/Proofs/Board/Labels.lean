import DroneTactics.Proofs.Board.Relocation
import DroneTactics.Proofs.Targeting.Payment
import Mathlib.Data.List.Nodup

/-!
Boards on which a name means one thing. The players and the lanes are told apart by their
names, and on each board the drones, the cards in hand, the sections, the attached upgrades
and the drone types of the pool. Paying a cost keeps this.
-/

namespace DroneTactics

/-- On a board the things of each kind are told apart by their names. -/
structure Board.Labelled (b : Board) : Prop where
  drones : (b.drones.toList.map fun e => e.2.id).Nodup
  hand : (b.hand.map HandCard.id).Nodup
  sections : (b.sections.map ShipSection.id).Nodup
  upgrades : (b.upgrades.toList.map fun e => e.2.instanceId).Nodup
  pool : (b.pool.map DroneType.name).Nodup

instance (b : Board) : Decidable b.Labelled :=
  decidable_of_iff ((b.drones.toList.map fun e => e.2.id).Nodup ∧ (b.hand.map HandCard.id).Nodup ∧
    (b.sections.map ShipSection.id).Nodup ∧ (b.upgrades.toList.map fun e => e.2.instanceId).Nodup ∧
    (b.pool.map DroneType.name).Nodup)
    ⟨fun ⟨h₁, h₂, h₃, h₄, h₅⟩ => ⟨h₁, h₂, h₃, h₄, h₅⟩,
      fun h => ⟨h.drones, h.hand, h.sections, h.upgrades, h.pool⟩⟩

/-- On a field the players and the lanes are told apart by their names, and what is on a
board as well. The same name may be on both boards. -/
structure Battlefield.Labelled (f : Battlefield) : Prop where
  players : f.first.player ≠ f.second.player
  lanes : f.lanes.Nodup
  boards : ∀ b ∈ f.boards, b.Labelled

instance (f : Battlefield) : Decidable f.Labelled :=
  decidable_of_iff (f.first.player ≠ f.second.player ∧ f.lanes.Nodup ∧
    ∀ b ∈ f.boards, b.Labelled)
    ⟨fun h => ⟨h.1, h.2.1, h.2.2⟩, fun h => ⟨h.players, h.lanes, h.boards⟩⟩

namespace Board.Labelled

variable {b : Board} {lanes : List LaneId}

theorem nodup_dronesIn (labelled : b.Labelled) (lane : LaneId) :
    ((b.dronesIn lane).map Drone.id).Nodup :=
  Roster.nodup_get labelled.drones lane

/-- Along distinct lanes no drone is met twice. -/
theorem pairwise_dronesAlong (labelled : b.Labelled) (distinct : lanes.Nodup) :
    (b.dronesAlong lanes).Pairwise fun e e' => e.2.id ≠ e'.2.id := by
  rw [dronesAlong, List.pairwise_flatMap]
  constructor
  · intro lane _
    rw [List.pairwise_map]
    exact List.pairwise_map.1 (labelled.nodup_dronesIn lane)
  · refine distinct.imp ?_
    rintro lane lane' apart e here e' there same
    obtain ⟨d, stands, rfl⟩ := List.mem_map.1 here
    obtain ⟨d', stands', rfl⟩ := List.mem_map.1 there
    -- Both drones are on the board, where the id is that of one drone in one lane.
    have one := List.inj_on_of_nodup_map labelled.drones (Roster.mem_get_iff.1 stands)
      (Roster.mem_get_iff.1 stands') same
    exact apart (Prod.mk.inj one).1

theorem discard (labelled : b.Labelled) (id : String) : (b.discard id).Labelled :=
  { labelled with hand := (List.filter_sublist.map _).nodup labelled.hand }

theorem moveDrone (labelled : b.Labelled) (id : String) (lane : LaneId) :
    (b.moveDrone id lane).Labelled :=
  { labelled with drones := Board.nodup_moveDrone_iff.2 labelled.drones }

end Board.Labelled

theorem Battlefield.Labelled.withBoard {f : Battlefield} {b c : Board} {player : PlayerId}
    (labelled : f.Labelled) (owned : f.board? player = some b) (same : c.player = player)
    (board : c.Labelled) : (f.withBoard c).Labelled := by
  refine ⟨by simpa using labelled.players, by simpa using labelled.lanes, ?_⟩
  have first := labelled.boards f.first (by simp [Battlefield.boards])
  have second := labelled.boards f.second (by simp [Battlefield.boards])
  rcases withBoard_cases owned same with ⟨-, replaced⟩ | ⟨-, -, replaced⟩
  · simpa [replaced, Battlefield.boards] using ⟨board, second⟩
  · simpa [replaced, Battlefield.boards] using ⟨first, board⟩

/-- Paying a cost leaves boards on which a name means one thing. -/
theorem Payment.labelled_applyTo {p : Payment} {f : Battlefield} (labelled : f.Labelled) :
    (p.applyTo f).Labelled := by
  rcases applyTo_cases p f with same | ⟨b, owned, paid | ⟨lane, paid⟩⟩
  · rwa [same]
  · obtain ⟨listed, player⟩ := Battlefield.mem_boards_of_board? owned
    rw [paid]
    exact labelled.withBoard owned player ((labelled.boards b listed).discard _)
  · obtain ⟨listed, player⟩ := Battlefield.mem_boards_of_board? owned
    rw [paid]
    exact labelled.withBoard owned player ((labelled.boards b listed).moveDrone _ lane)

end DroneTactics
