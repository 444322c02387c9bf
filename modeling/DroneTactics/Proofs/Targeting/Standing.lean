import DroneTactics.Proofs.Board.Station
import DroneTactics.Proofs.Targeting.Mobility
import DroneTactics.Proofs.Targeting.Scope
import DroneTactics.Targeting.Secondary

/-!
Where offered things come from. A drone that is offered, as a cost, as a target or as a
second target, is shown in a lane of the board on which it stands, and for a cost or a target
this is a lane of the field; a card that is offered is in the acting player's hand, and is
not the one being played.
-/

namespace DroneTactics

def Battlefield.Shows (f : Battlefield) (t : Target) : Prop :=
  ∃ b ∈ f.boards, ∃ lane, ∃ d ∈ b.dronesIn lane, t = .ofDrone d b.player lane

theorem Battlefield.Shows.has {f : Battlefield} {t : Target} (h : f.Shows t) : f.Has t.id := by
  obtain ⟨b, board, lane, d, stands, rfl⟩ := h
  exact ⟨b, board, lane, d, stands, rfl⟩

def Battlefield.ShowsInLane (f : Battlefield) (t : Target) : Prop :=
  ∃ st ∈ f.stations, t = .ofDrone st.drone st.owner st.lane

theorem Battlefield.ShowsInLane.shows {f : Battlefield} {t : Target} (h : f.ShowsInLane t) :
    f.Shows t := by
  obtain ⟨st, mem, rfl⟩ := h
  obtain ⟨b, listed, player, -, stands⟩ := Battlefield.mem_stations_iff.1 mem
  exact ⟨b, listed, st.lane, st.drone, stands, by rw [player]⟩

/-- A target is a card that the acting player holds and does not play. -/
def Situation.Spares (s : Situation) (t : Target) : Prop :=
  ∃ b, s.field.board? s.acting = some b ∧ ∃ c ∈ b.hand, some c.id ≠ s.playing ∧
    t = .ofCard c s.acting

/-- A target, if it is a drone, is shown where it stands, and if it is a card, is held and
not played. -/
structure Situation.Presents (s : Situation) (t : Target) : Prop where
  drone : t.kind = .drone → s.field.Shows t
  card : t.kind = .card → s.Spares t

namespace Situation

variable {s : Situation} {t : Target} {owner : PlayerId} {board : Board}

theorem mem_boards_iff {word : String} : (owner, board) ∈ s.boards word ↔
    owner ∈ s.players word ∧ s.field.board? owner = some board := by
  rw [boards, List.mem_filterMap]
  constructor
  · rintro ⟨player, mem, found⟩
    obtain ⟨b, owned, same⟩ := Option.map_eq_some_iff.1 found
    obtain ⟨rfl, rfl⟩ := Prod.mk.inj same
    exact ⟨mem, owned⟩
  · rintro ⟨mem, owned⟩
    exact ⟨owner, mem, by rw [owned, Option.map_some]⟩

theorem shows_of_mem_boards {word : String} {lane : LaneId} {d : Drone}
    (mem : (owner, board) ∈ s.boards word) (stands : d ∈ board.dronesIn lane) :
    s.field.Shows (.ofDrone d owner lane) := by
  obtain ⟨listed, player⟩ := Battlefield.mem_boards_of_board? (mem_boards_iff.1 mem).2
  exact ⟨board, listed, lane, d, stands, by rw [player]⟩

theorem shownInLane_of_mem_boards {word : String} {lane : LaneId} {d : Drone}
    (mem : (owner, board) ∈ s.boards word) (known : lane ∈ s.field.lanes)
    (stands : d ∈ board.dronesIn lane) : s.field.ShowsInLane (.ofDrone d owner lane) := by
  obtain ⟨listed, player⟩ := Battlefield.mem_boards_of_board? (mem_boards_iff.1 mem).2
  have there : (⟨owner, lane, d⟩ : Station) ∈ s.field.stations :=
    Battlefield.mem_stations_iff.2 ⟨board, listed, player.symm, known, stands⟩
  exact ⟨_, there, rfl⟩

theorem shownInLane_of_mem_droneTargets {rule : Targeting} (mem : t ∈ s.droneTargets rule) :
    s.field.ShowsInLane t := by
  obtain ⟨⟨owner, board⟩, owned, inside⟩ := List.mem_flatMap.1 mem
  obtain ⟨⟨lane, d⟩, along, passes⟩ := List.mem_filterMap.1 inside
  obtain ⟨-, same⟩ := Option.ite_none_right_eq_some.1 passes
  obtain rfl := Option.some.inj same
  obtain ⟨reached, stands⟩ := Board.mem_dronesAlong_iff.1 along
  exact shownInLane_of_mem_boards owned ((s.scope_sublist rule.location).subset reached) stands

theorem shownInLane_of_mem_selfTargets (mem : t ∈ s.selfTargets) (drone : t.kind = .drone) :
    s.field.ShowsInLane t := by
  unfold selfTargets at mem
  split at mem
  case h_1 => exact absurd mem List.not_mem_nil
  case h_2 =>
      rw [List.mem_singleton.1 mem] at drone
      cases drone
  case h_3 d _ =>
      obtain ⟨st, found, rfl⟩ := Option.map_eq_some_iff.1 (Option.mem_toList.1 mem)
      exact ⟨st, Battlefield.mem_of_station? found, rfl⟩

theorem spares_of_mem_handTargets {rule : Targeting} (mem : t ∈ s.handTargets rule) :
    s.Spares t := by
  unfold handTargets at mem
  split at mem
  case isFalse => exact absurd mem List.not_mem_nil
  case isTrue =>
      split at mem
      case h_1 b owned =>
          obtain ⟨c, inside, rfl⟩ := List.mem_map.1 mem
          obtain ⟨held, other⟩ := List.mem_filter.1 inside
          exact ⟨b, owned, c, held, by simpa using other, rfl⟩
      case h_2 => exact absurd mem List.not_mem_nil

/-! ### Second targets -/

theorem shows_of_mem_secondaryTargets {primary : PrimaryChoice} {rule : SecondaryTargeting}
    (mem : t ∈ s.secondaryTargets primary rule) :
    (∃ lane owner, t = .ofLane lane owner) ∨ s.field.Shows t := by
  unfold secondaryTargets at mem
  split at mem
  case h_1 =>
      left
      unfold secondaryLanes at mem
      split at mem
      case h_1 lane _ _ => exact ⟨lane, _, List.mem_singleton.1 mem⟩
      case h_2 =>
          split at mem
          case isTrue =>
              obtain ⟨lane, -, rfl⟩ := List.mem_map.1 mem
              exact ⟨lane, _, rfl⟩
          case isFalse => exact absurd mem List.not_mem_nil
  case h_2 =>
      right
      unfold secondaryDrones at mem
      split at mem
      case h_1 lane _ _ =>
          obtain ⟨⟨owner, board⟩, owned, inside⟩ := List.mem_flatMap.1 mem
          obtain ⟨d, picked, rfl⟩ := List.mem_map.1 inside
          exact shows_of_mem_boards owned (List.mem_filter.1 picked).1
      case h_2 => exact absurd mem List.not_mem_nil
  case h_3 => exact absurd mem List.not_mem_nil

theorem presents_of_mem_secondaryTargets {primary : PrimaryChoice} {rule : SecondaryTargeting}
    (mem : t ∈ s.secondaryTargets primary rule) : s.Presents t ∧ t.kind ≠ .card := by
  rcases shows_of_mem_secondaryTargets mem with ⟨lane, owner, rfl⟩ | shown
  · exact ⟨⟨nofun, nofun⟩, nofun⟩
  · have drone : t.kind = .drone := by
      obtain ⟨b, -, lane, d, -, rfl⟩ := shown
      rfl
    refine ⟨⟨fun _ => shown, fun card => ?_⟩, ?_⟩
    · rw [drone] at card
      cases card
    · rw [drone]
      nofun

end Situation

namespace Referee

variable {r : Referee} {s : Situation} {rule : Targeting} {offers : List Target} {t : Target}

theorem targetsFor_of_mem_ruleTargets (found : r.ruleTargets rule s = .ok offers)
    (mem : t ∈ offers) : ∃ aim, aim.Offers t ∧ s.targetsFor r.rules rule aim = .ok offers := by
  unfold ruleTargets at found
  split at found
  case h_1 aim _ =>
      split at found
      case isTrue => exact ⟨aim, Situation.offers_of_mem_targetsFor found mem, found⟩
      case isFalse =>
          obtain rfl := pure_eq_ok_iff.1 found
          exact absurd mem List.not_mem_nil
  case h_2 =>
      obtain rfl := pure_eq_ok_iff.1 found
      exact absurd mem List.not_mem_nil

theorem shownInLane_of_mem_ruleTargets (found : r.ruleTargets rule s = .ok offers)
    (mem : t ∈ offers) (drone : t.kind = .drone) : s.field.ShowsInLane t := by
  obtain ⟨aim, offered, found⟩ := targetsFor_of_mem_ruleTargets found mem
  rcases offered.aim_of_drone drone with rfl | rfl
  · obtain rfl := pure_eq_ok_iff.1 found
    exact Situation.shownInLane_of_mem_droneTargets mem
  · obtain rfl := pure_eq_ok_iff.1 found
    exact Situation.shownInLane_of_mem_selfTargets mem drone

theorem presents_of_mem_ruleTargets (found : r.ruleTargets rule s = .ok offers)
    (mem : t ∈ offers) : s.Presents t := by
  refine ⟨fun drone => (shownInLane_of_mem_ruleTargets found mem drone).shows, fun card => ?_⟩
  obtain ⟨aim, offered, found⟩ := targetsFor_of_mem_ruleTargets found mem
  obtain rfl := offered.aim_of_card card
  obtain rfl := pure_eq_ok_iff.1 found
  exact Situation.spares_of_mem_handTargets mem

/-! ### Rules of a definition -/

/-- What the definition in play can target is what its rule offers, or drone types for an
upgrade. -/
theorem ruleTargets_of_mem_targets (found : r.targets s = .ok offers) (mem : t ∈ offers) :
    t.kind = .droneType ∨ r.ruleTargets s.definition.targeting s = .ok offers := by
  unfold targets at found
  split at found
  case isTrue =>
      obtain ⟨type, owner, rfl⟩ := Situation.offers_of_mem_slotTargets found mem
      exact .inl rfl
  case isFalse => exact .inr found

theorem ruleTargets_of_mem_costTargets (found : r.costTargets s = .ok offers)
    (mem : t ∈ offers) : ∃ rule all, r.ruleTargets rule s = .ok all ∧ t ∈ all := by
  cases costs : s.definition.extraCost with
  | none =>
      rw [costTargets, costs] at found
      obtain rfl := pure_eq_ok_iff.1 found
      exact absurd mem List.not_mem_nil
  | some cost =>
      obtain ⟨all, ruled, inside, -⟩ := offered_of_mem_costTargets costs found mem
      exact ⟨cost.targeting, all, ruled, inside⟩

theorem presents_of_mem_targets (found : r.targets s = .ok offers) (mem : t ∈ offers) :
    s.Presents t := by
  rcases ruleTargets_of_mem_targets found mem with type | ruled
  · refine ⟨fun drone => ?_, fun card => ?_⟩
    · cases type.symm.trans drone
    · cases type.symm.trans card
  · exact presents_of_mem_ruleTargets ruled mem

theorem shownInLane_of_mem_targets (found : r.targets s = .ok offers) (mem : t ∈ offers)
    (drone : t.kind = .drone) : s.field.ShowsInLane t := by
  rcases ruleTargets_of_mem_targets found mem with type | ruled
  · cases type.symm.trans drone
  · exact shownInLane_of_mem_ruleTargets ruled mem drone

theorem presents_of_mem_costTargets (found : r.costTargets s = .ok offers) (mem : t ∈ offers) :
    s.Presents t := by
  obtain ⟨rule, all, ruled, inside⟩ := ruleTargets_of_mem_costTargets found mem
  exact presents_of_mem_ruleTargets ruled inside

theorem shownInLane_of_mem_costTargets (found : r.costTargets s = .ok offers)
    (mem : t ∈ offers) (drone : t.kind = .drone) : s.field.ShowsInLane t := by
  obtain ⟨rule, all, ruled, inside⟩ := ruleTargets_of_mem_costTargets found mem
  exact shownInLane_of_mem_ruleTargets ruled inside drone

end Referee

end DroneTactics
