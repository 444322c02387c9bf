import DroneTactics.Board.Basic

/-!
Where drones stand. What is looked up by id stands in a lane of the field, on the board
of its owner.
-/

namespace DroneTactics

theorem Board.mem_dronesAlong_iff {b : Board} {lanes : List LaneId} {lane : LaneId}
    {d : Drone} : (lane, d) ∈ b.dronesAlong lanes ↔ lane ∈ lanes ∧ d ∈ b.dronesIn lane := by
  rw [Board.dronesAlong, List.mem_flatMap]
  constructor
  · rintro ⟨l, mem, inside⟩
    obtain ⟨d', stands, same⟩ := List.mem_map.1 inside
    obtain ⟨rfl, rfl⟩ := Prod.mk.inj same
    exact ⟨mem, stands⟩
  · rintro ⟨mem, stands⟩
    exact ⟨lane, mem, List.mem_map.2 ⟨d, stands, rfl⟩⟩

namespace Battlefield

variable {f : Battlefield} {st : Station} {id : String}

theorem mem_stations_iff : st ∈ f.stations ↔
    ∃ b ∈ f.boards, st.owner = b.player ∧ st.lane ∈ f.lanes ∧ st.drone ∈ b.dronesIn st.lane := by
  rw [stations, List.mem_flatMap]
  constructor
  · rintro ⟨b, board, inside⟩
    obtain ⟨⟨lane, d⟩, along, rfl⟩ := List.mem_map.1 inside
    obtain ⟨known, stands⟩ := Board.mem_dronesAlong_iff.1 along
    exact ⟨b, board, rfl, known, stands⟩
  · rintro ⟨b, board, owner, known, stands⟩
    refine ⟨b, board, List.mem_map.2 ⟨(st.lane, st.drone), ?_, ?_⟩⟩
    · exact Board.mem_dronesAlong_iff.2 ⟨known, stands⟩
    · simp [← owner]

theorem mem_of_station? (h : f.station? id = some st) : st ∈ f.stations :=
  List.mem_of_find?_eq_some h

theorem id_of_station? (h : f.station? id = some st) : st.drone.id = id := by
  simpa using List.find?_some h

/-- What is found by its id stands in a lane of the field. -/
theorem lane_of_station? (h : f.station? id = some st) : st.lane ∈ f.lanes := by
  obtain ⟨b, -, -, known, -⟩ := mem_stations_iff.1 (mem_of_station? h)
  exact known

/-- A drone of an id stands in a lane of the field. -/
def Holds (f : Battlefield) (id : String) : Prop := ∃ st ∈ f.stations, st.drone.id = id

/-- A drone of an id is on one of the boards, in a lane of the field or in another one. -/
def Has (f : Battlefield) (id : String) : Prop :=
  ∃ b ∈ f.boards, ∃ lane, ∃ d ∈ b.dronesIn lane, d.id = id

theorem station?_eq_none_iff : f.station? id = none ↔ ¬f.Holds id := by
  simp [station?, Holds]

theorem holds_of_station? (h : f.station? id = some st) : f.Holds id :=
  ⟨st, mem_of_station? h, id_of_station? h⟩

theorem holds_iff : f.Holds id ↔
    ∃ b ∈ f.boards, ∃ lane ∈ f.lanes, ∃ d ∈ b.dronesIn lane, d.id = id := by
  constructor
  · rintro ⟨st, mem, same⟩
    obtain ⟨b, board, -, known, stands⟩ := mem_stations_iff.1 mem
    exact ⟨b, board, st.lane, known, st.drone, stands, same⟩
  · rintro ⟨b, board, lane, known, d, stands, same⟩
    exact ⟨⟨b.player, lane, d⟩, mem_stations_iff.2 ⟨b, board, rfl, known, stands⟩, same⟩

theorem Holds.has (h : f.Holds id) : f.Has id := by
  obtain ⟨b, board, lane, -, d, stands, same⟩ := holds_iff.1 h
  exact ⟨b, board, lane, d, stands, same⟩

/-! ### A board in place of another one -/

variable {b c : Board} {player : PlayerId}

theorem mem_boards_of_board? (owned : f.board? player = some b) :
    b ∈ f.boards ∧ b.player = player :=
  ⟨List.mem_of_find?_eq_some owned, by simpa using List.find?_some owned⟩

/-- Who has a board plays against someone. -/
theorem exists_opponent (owned : f.board? player = some b) :
    ∃ other, f.opponent? player = some other := by
  obtain ⟨listed, rfl⟩ := mem_boards_of_board? owned
  simp only [boards, List.mem_cons, List.not_mem_nil, or_false] at listed
  unfold opponent?
  by_cases first : b.player = f.first.player
  · exact ⟨_, if_pos first⟩
  · have second : b.player = f.second.player :=
      congrArg Board.player (listed.resolve_left fun h => first (congrArg Board.player h))
    exact ⟨_, by rw [if_neg first, if_pos second]⟩

theorem ne_of_opponent? {other : PlayerId}
    (distinct : f.first.player ≠ f.second.player) (opponent : f.opponent? player = some other) :
    player ≠ other := by
  unfold opponent? at opponent
  split at opponent
  case isTrue first =>
      rw [first, ← Option.some.inj opponent]
      exact distinct
  case isFalse =>
      obtain ⟨second, same⟩ := Option.ite_none_right_eq_some.1 opponent
      rw [second, ← Option.some.inj same]
      exact distinct.symm

/-- A board takes the place of the one that is found under its player. -/
theorem withBoard_cases (owned : f.board? player = some b) (same : c.player = player) :
    (f.first = b ∧ f.withBoard c = { f with first := c }) ∨
    (f.first.player ≠ player ∧ f.second = b ∧ f.withBoard c = { f with second := c }) := by
  by_cases here : f.first.player = player
  · have first : f.first = b := by simpa [board?, boards, here] using owned
    exact .inl ⟨first, by rw [withBoard, if_pos (same.trans here.symm)]⟩
  · have second : f.second.player = player ∧ f.second = b := by
      simpa [board?, boards, here] using owned
    obtain ⟨there, second⟩ := second
    refine .inr ⟨here, second, ?_⟩
    rw [withBoard, if_neg (fun h => here (h.symm.trans same)), if_pos (same.trans there.symm)]

theorem withBoard_self (owned : f.board? player = some b) : f.withBoard b = f := by
  rcases withBoard_cases owned (mem_boards_of_board? owned).2 with
    ⟨first, replaced⟩ | ⟨-, second, replaced⟩
  · rw [replaced, ← first]
  · rw [replaced, ← second]

theorem withBoard_withBoard (same : b.player = c.player) :
    (f.withBoard b).withBoard c = f.withBoard c := by
  by_cases first : c.player = f.first.player
  · simp [withBoard, same, first]
  · by_cases second : c.player = f.second.player
    · have apart : f.second.player ≠ f.first.player := second ▸ first
      simp [withBoard, same, second, apart]
    · simp [withBoard, same, first, second]

theorem board?_withBoard (owned : f.board? player = some b) (same : c.player = player) :
    (f.withBoard c).board? player = some c := by
  rcases withBoard_cases owned same with ⟨-, replaced⟩ | ⟨other, -, replaced⟩
  · simp [replaced, board?, boards, same]
  · simp [replaced, board?, boards, same, other]

theorem board?_withBoard_of_ne {other : PlayerId} (owned : f.board? player = some b)
    (same : c.player = player) (apart : other ≠ player) :
    (f.withBoard c).board? other = f.board? other := by
  have named : b.player = player := (mem_boards_of_board? owned).2
  have here : c.player ≠ other := fun h => apart (h.symm.trans same)
  have there : b.player ≠ other := fun h => apart (h.symm.trans named)
  rcases withBoard_cases owned same with ⟨rfl, replaced⟩ | ⟨-, rfl, replaced⟩
  · simp [replaced, board?, boards, here, there]
  · simp [replaced, board?, boards, List.find?_cons, here, there]

@[simp] theorem lanes_withBoard : (f.withBoard c).lanes = f.lanes := by
  unfold withBoard
  split
  · rfl
  · split <;> rfl

@[simp] theorem first_player_withBoard : (f.withBoard c).first.player = f.first.player := by
  unfold withBoard
  split
  case isTrue here => exact here
  case isFalse => split <;> rfl

@[simp] theorem second_player_withBoard : (f.withBoard c).second.player = f.second.player := by
  unfold withBoard
  split
  case isTrue => rfl
  case isFalse =>
      split
      case isTrue there => exact there
      case isFalse => rfl

theorem board?_of_mem (distinct : f.first.player ≠ f.second.player) (mem : b ∈ f.boards) :
    f.board? b.player = some b := by
  simp only [boards, List.mem_cons, List.not_mem_nil, or_false] at mem
  rcases mem with rfl | rfl
  · simp [board?, boards]
  · simp [board?, boards, distinct]

/-- What is as true of the new board as of the old one is true of some board before and
after alike. -/
theorem exists_board_withBoard_iff {P : Board → Prop} (owned : f.board? player = some b)
    (same : c.player = player) (alike : P c ↔ P b) :
    (∃ b ∈ (f.withBoard c).boards, P b) ↔ ∃ b ∈ f.boards, P b := by
  rcases withBoard_cases owned same with ⟨rfl, replaced⟩ | ⟨-, rfl, replaced⟩
  · simp [replaced, boards, alike]
  · simp [replaced, boards, alike]

end Battlefield

end DroneTactics
