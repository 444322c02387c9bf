import DroneTactics.Proofs.Board.Control
import DroneTactics.Proofs.Board.MovedOnce
import DroneTactics.Proofs.Targeting.Mobility
import DroneTactics.Proofs.Targeting.Namesake

/-!
What a drone that pays by moving changes on the field. Where all drones are told apart by their
ids, it is found in its new lane, every other drone is found where it was, the other player's
board stays as it is, and control can change only in the lane that was left and in the new one.
-/

namespace DroneTactics

namespace Battlefield

variable {f : Battlefield} {b c : Board} {player : PlayerId} {id : String} {lane : LaneId}

/-- The players are told apart by their names, and the drones of both boards by their ids. -/
structure Distinct (f : Battlefield) : Prop where
  players : f.first.player ≠ f.second.player
  drones : ((f.first.drones.toList ++ f.second.drones.toList).map fun e => e.2.id).Nodup

instance (f : Battlefield) : Decidable f.Distinct :=
  decidable_of_iff (f.first.player ≠ f.second.player ∧
    ((f.first.drones.toList ++ f.second.drones.toList).map fun e => e.2.id).Nodup)
    ⟨fun h => ⟨h.1, h.2⟩, fun h => ⟨h.players, h.drones⟩⟩

theorem Distinct.sound (distinct : f.Distinct) : f.Sound := by
  have nodup := distinct.drones
  rw [List.map_append, List.nodup_append] at nodup
  refine ⟨distinct.players, fun b listed => ?_⟩
  simp only [boards, List.mem_cons, List.not_mem_nil, or_false] at listed
  rcases listed with rfl | rfl
  · exact nodup.1
  · exact nodup.2.1

/-- No id is on both boards. -/
theorem Distinct.board_unique (distinct : f.Distinct) (listed : b ∈ f.boards)
    (listed' : c ∈ f.boards) {lane' : LaneId} {d e : Drone} (stands : d ∈ b.dronesIn lane)
    (stands' : e ∈ c.dronesIn lane') (same : d.id = e.id) : b = c := by
  have apart := distinct.drones
  rw [List.map_append, List.nodup_append] at apart
  have here := List.mem_map_of_mem (f := fun e => e.2.id) (Roster.mem_get_iff.1 stands)
  have there := List.mem_map_of_mem (f := fun e => e.2.id) (Roster.mem_get_iff.1 stands')
  simp only [boards, List.mem_cons, List.not_mem_nil, or_false] at listed listed'
  rcases listed with rfl | rfl <;> rcases listed' with rfl | rfl
  · rfl
  · exact absurd same (apart.2.2 _ here _ there)
  · exact absurd same.symm (apart.2.2 _ there _ here)
  · rfl

/-! ### Looking drones up -/

theorem filter_stations (f : Battlefield) (id : String) :
    (f.stations.filter fun st => st.drone.id = id) =
      f.boards.flatMap fun b => f.lanes.flatMap fun lane =>
        ((b.dronesIn lane).filter fun d => d.id = id).map (⟨b.player, lane, ·⟩) := by
  simp only [stations, Board.dronesAlong, List.filter_flatMap, List.map_flatMap, List.map_map,
    List.filter_map]
  rfl

/-- A drone is found where it was if the new board has the same drones of its id in each lane. -/
theorem station?_withBoard (owned : f.board? player = some b) (same : c.player = player)
    (alike : ∀ lane, ((c.dronesIn lane).filter fun d => d.id = id) =
      (b.dronesIn lane).filter fun d => d.id = id) :
    (f.withBoard c).station? id = f.station? id := by
  have named : c.player = b.player := same.trans (mem_boards_of_board? owned).2.symm
  rw [station?, station?, ← List.head?_filter, ← List.head?_filter, filter_stations,
    filter_stations, lanes_withBoard]
  rcases withBoard_cases owned same with ⟨rfl, replaced⟩ | ⟨-, rfl, replaced⟩
  · simp [replaced, boards, alike, named]
  · simp [replaced, boards, alike, named]

theorem control_withBoard (owned : f.board? player = some b) (same : c.player = player)
    (alike : c.droneCount lane = b.droneCount lane) :
    (f.withBoard c).control lane = f.control lane := by
  have named : c.player = b.player := same.trans (mem_boards_of_board? owned).2.symm
  simp only [control, laneControl, lanes_withBoard]
  rcases withBoard_cases owned same with ⟨rfl, replaced⟩ | ⟨-, rfl, replaced⟩
  · simp only [replaced, leader, alike, named]
  · simp only [replaced, leader, alike, named]

/-- What can be seen of a field after a drone has been moved from its station to the end of a
lane. -/
structure Carries (f : Battlefield) (st : Station) (goal : LaneId) (after : Battlefield) :
    Prop where
  arrives : after.station? st.drone.id = some ⟨st.owner, goal, st.drone⟩
  others : ∀ id, id ≠ st.drone.id → after.station? id = f.station? id
  opponent : ∀ player, player ≠ st.owner → after.board? player = f.board? player
  control : ∀ lane, lane ≠ st.lane → lane ≠ goal → after.control lane = f.control lane

end Battlefield

structure Payment.Sends (p : Payment) (st : Station) (goal : LaneId) : Prop where
  drone : p.target.kind = .drone
  id : p.target.id = st.drone.id
  owner : p.target.owner = st.owner
  goal : p.destinationLane = some goal

namespace Payment

variable {f : Battlefield} {p : Payment} {st : Station} {goal : LaneId}

theorem carries_of_sends (distinct : f.Distinct) (mem : st ∈ f.stations) (known : goal ∈ f.lanes)
    (sends : p.Sends st goal) : f.Carries st goal (p.applyTo f) := by
  obtain ⟨b, listed, player, -, stands⟩ := Battlefield.mem_stations_iff.1 mem
  have owned : f.board? st.owner = some b := by
    rw [player]
    exact Battlefield.board?_of_mem distinct.players listed
  have paid : p.applyTo f = f.withBoard (b.moveDrone st.drone.id goal) := by
    rw [applyTo_of_moved (sends.owner ▸ owned) sends.drone sends.goal, sends.id]
  have named : (b.moveDrone st.drone.id goal).player = st.owner := player.symm
  have moved := Board.moved_of_first
    (Board.first_of_nodup (distinct.sound.drones b listed) stands) goal
  have opponent : ∀ other, other ≠ st.owner → (p.applyTo f).board? other = f.board? other := by
    intro other apart
    rw [paid, Battlefield.board?_withBoard_of_ne owned named apart]
  refine ⟨?_, ?_, opponent, ?_⟩
  · have there : (⟨st.owner, goal, st.drone⟩ : Station) ∈ (p.applyTo f).stations := by
      have present := (Battlefield.mem_boards_of_board?
        (Battlefield.board?_withBoard owned named)).1
      refine Battlefield.mem_stations_iff.2 ⟨b.moveDrone st.drone.id goal, paid ▸ present,
        named.symm, by simpa using known, ?_⟩
      rw [moved.lanes]
      simp
    have sound : (p.applyTo f).Sound := sound_applyTo distinct.sound
    cases looked : (p.applyTo f).station? st.drone.id with
    | none => exact absurd ⟨_, there, rfl⟩ (Battlefield.station?_eq_none_iff.1 looked)
    | some found =>
        have seen := Battlefield.mem_of_station? looked
        have same := Battlefield.id_of_station? looked
        -- The other player has no drone of this id, neither before nor after the move.
        have owner : found.owner = st.owner := by
          obtain ⟨c, listed', player', -, stands'⟩ := Battlefield.mem_stations_iff.1 seen
          apply Classical.byContradiction
          intro apart
          have owned' := Battlefield.board?_of_mem sound.players listed'
          rw [← player', opponent _ apart] at owned'
          obtain rfl := distinct.board_unique (Battlefield.mem_boards_of_board? owned').1 listed
            stands' stands same
          exact apart (player'.trans player.symm)
        rw [Battlefield.eq_of_mem_stations sound seen there owner same]
  · intro id other
    rw [paid]
    exact Battlefield.station?_withBoard owned named (Board.filter_dronesIn_moveDrone other)
  · intro lane left right
    rw [paid]
    refine Battlefield.control_withBoard owned named ?_
    simp only [Board.droneCount, moved.lanes lane, if_neg left, if_neg right, List.append_nil]

end Payment

/-- What moving a drone changes. On a board without a drone of the id nothing changes, and
otherwise the first such drone alone goes to the end of the lane. A cost that a drone pays by
moving to a lane of the field carries it there, and changes nothing else that can be looked up. -/
theorem moving_changes_one_drone :
    (∀ (b : Board) (id : String) (goal : LaneId),
      (∀ lane, ∀ d ∈ b.dronesIn lane, d.id ≠ id) → b.moveDrone id goal = b) ∧
    (∀ (b : Board) (id : String) (goal : LaneId),
      (∃ lane, ∃ d ∈ b.dronesIn lane, d.id = id) →
      ∃ source d, b.Moved id goal (b.moveDrone id goal) source d) ∧
    (∀ (f : Battlefield) (p : Payment) (st : Station) (goal : LaneId), f.Distinct →
      st ∈ f.stations → goal ∈ f.lanes → p.Sends st goal → f.Carries st goal (p.applyTo f)) :=
  ⟨fun _ _ _ => Board.moveDrone_of_absent, fun _ _ goal present => Board.exists_moved present goal,
    fun _ _ _ _ => Payment.carries_of_sends⟩

def doubledScouts : Board :=
  { player := "player1"
    drones := .ofList [("lane1", [wreck, scout]), ("lane2", [scout, raider])] }

def wreckFallsBack : Payment :=
  { target := .ofDrone wreck "player1" "lane2"
    sourceLane := some "lane2"
    destinationLane := some "lane1" }

/-- Of two scouts the one that is listed first goes to a new lane. In the skirmish the wreck is
found beside the scout after it has fallen back, and the raider where it was. -/
theorem first_scout_moves :
    let field := (skirmish (.card withdrawal)).field
    let st : Station := ⟨"player1", "lane2", wreck⟩
    (∀ lane, ∀ d ∈ doubledScouts.dronesIn lane, d.id ≠ "bomber") ∧
      doubledScouts.moveDrone "bomber" "lane9" = doubledScouts ∧
      (∃ lane, ∃ d ∈ doubledScouts.dronesIn lane, d.id = "scout") ∧
      (∃ source d,
        doubledScouts.Moved "scout" "lane9" (doubledScouts.moveDrone "scout" "lane9") source d) ∧
      (doubledScouts.moveDrone "scout" "lane9").drones.entries =
        [("lane1", [wreck]), ("lane2", [scout, raider]), ("lane9", [scout])] ∧
      field.Distinct ∧ st ∈ field.stations ∧ "lane1" ∈ field.lanes ∧
      wreckFallsBack.Sends st "lane1" ∧
      field.Carries st "lane1" (wreckFallsBack.applyTo field) ∧
      (wreckFallsBack.applyTo field).station? "wreck" = some ⟨"player1", "lane1", wreck⟩ ∧
      (wreckFallsBack.applyTo field).station? "raider" = some ⟨"player2", "lane2", raider⟩ := by
  intro field st
  obtain ⟨stays, moves, carries⟩ := moving_changes_one_drone
  have listed : ∀ e ∈ doubledScouts.drones.toList, e.2.id ≠ "bomber" := by decide
  have absent : ∀ lane, ∀ d ∈ doubledScouts.dronesIn lane, d.id ≠ "bomber" :=
    fun lane d stands => listed (lane, d) (Roster.mem_get_iff.1 stands)
  have present : ∃ lane, ∃ d ∈ doubledScouts.dronesIn lane, d.id = "scout" :=
    ⟨"lane1", scout, by decide, rfl⟩
  have distinct : field.Distinct := by decide
  have stands : st ∈ field.stations := by decide
  have sends : wreckFallsBack.Sends st "lane1" := ⟨rfl, rfl, rfl, rfl⟩
  have carried := carries field wreckFallsBack st "lane1" distinct stands (by decide) sends
  exact ⟨absent, stays doubledScouts _ _ absent, present, moves doubledScouts _ _ present,
    by decide, distinct, stands, by decide, sends, carried, carried.arrives,
    (carried.others "raider" (by decide)).trans (by decide)⟩

end DroneTactics
