import DroneTactics.Proofs.Board.Labels
import DroneTactics.Proofs.Targeting.Mobility
import DroneTactics.Proofs.Targeting.Scope
import DroneTactics.Proofs.Targeting.Standing
import Mathlib.Data.List.ReduceOption

/-!
A pick means one target. A pick is matched by its key, so two offered targets with one key
would leave the second out of reach. On boards on which a name means one thing no question
about targets offers two with one key: what a board contributes carries the board's owner,
and within a board the names decide.
-/

namespace DroneTactics

/-- No two of some offered targets have the same key. -/
def Unambiguous (offers : List Target) : Prop := offers.Pairwise fun t u => t.key ≠ u.key

theorem Unambiguous.filter {offers : List Target} (clear : Unambiguous offers)
    (p : Target → Bool) : Unambiguous (offers.filter p) := clear.sublist List.filter_sublist

theorem unambiguous_nil : Unambiguous [] := List.Pairwise.nil

theorem unambiguous_singleton (t : Target) : Unambiguous [t] := List.pairwise_singleton _ _

/-- Targets that are made from things with distinct names, each under its name, have distinct
keys. -/
theorem unambiguous_map {α : Type} {xs : List α} {name : α → String} {make : α → Target}
    (distinct : (xs.map name).Nodup) (named : ∀ x, (make x).id = name x) :
    Unambiguous (xs.map make) := by
  rw [Unambiguous, List.pairwise_map]
  refine (List.pairwise_map.1 distinct).imp ?_
  intro x y apart same
  have ids : (make x).id = (make y).id := congrArg TargetKey.id same
  rw [named, named] at ids
  exact apart ids

theorem unambiguous_map_filter {α : Type} {xs : List α} {p : α → Bool} {name : α → String}
    {make : α → Target} (distinct : (xs.map name).Nodup) (named : ∀ x, (make x).id = name x) :
    Unambiguous ((xs.filter p).map make) :=
  unambiguous_map ((List.filter_sublist.map name).nodup distinct) named

/-- Sides of distinct lanes have distinct keys. -/
theorem unambiguous_map_ofLane {lanes : List LaneId} (distinct : lanes.Nodup)
    (owner : PlayerId) : Unambiguous (lanes.map (.ofLane · owner)) := by
  have named : (lanes.map id).Nodup := by rwa [List.map_id]
  exact unambiguous_map named fun _ => rfl

/-- Drones that are met along distinct lanes have distinct keys. -/
theorem Board.Labelled.unambiguous_along {b : Board} {lanes : List LaneId}
    (labelled : b.Labelled) (distinct : lanes.Nodup) {make : LaneId × Drone → Option Target}
    (named : ∀ {e t}, make e = some t → t.id = e.2.id) :
    Unambiguous ((b.dronesAlong lanes).filterMap make) := by
  rw [Unambiguous, List.pairwise_filterMap]
  refine (labelled.pairwise_dronesAlong distinct).imp ?_
  intro e e' apart t made t' made' same
  have ids : t.id = t'.id := congrArg TargetKey.id same
  rw [named made, named made'] at ids
  exact apart ids

namespace Situation

variable {s : Situation}

/-! ### Lanes and boards -/

theorem nodup_scope (distinct : s.field.lanes.Nodup) (location : Option String) :
    (s.scope location).Nodup :=
  (s.scope_sublist location).nodup distinct

theorem nodup_players (distinct : s.field.first.player ≠ s.field.second.player)
    (word : String) : (s.players word).Nodup := by
  unfold players
  refine List.Nodup.filter _ ?_
  split
  case h_1 => exact List.nodup_singleton _
  case h_2 => cases s.opponent? <;> simp
  case h_3 =>
      cases opponent : s.opponent? with
      | none => simp
      | some other => simpa using Battlefield.ne_of_opponent? distinct opponent
  case h_4 => exact List.nodup_nil

/-- What is gathered board by board, in the name of the board's owner, is unambiguous if it is
on each board. -/
theorem unambiguous_flatMap_boards {F : PlayerId × Board → List Target}
    (labelled : s.field.Labelled) (word : String)
    (owned : ∀ owner b, ∀ t ∈ F (owner, b), t.owner = owner)
    (each : ∀ owner b, b.Labelled → Unambiguous (F (owner, b))) :
    Unambiguous ((s.boards word).flatMap F) := by
  rw [Unambiguous, List.pairwise_flatMap]
  constructor
  · rintro ⟨owner, b⟩ mem
    have listed := (Battlefield.mem_boards_of_board? (mem_boards_iff.1 mem).2).1
    exact each owner b (labelled.boards b listed)
  · rw [boards, List.pairwise_filterMap]
    refine (nodup_players labelled.players word).imp ?_
    intro player player' apart e found e' found' t here t' there same
    obtain ⟨b, -, rfl⟩ := Option.map_eq_some_iff.1 found
    obtain ⟨b', -, rfl⟩ := Option.map_eq_some_iff.1 found'
    have owners : t.owner = t'.owner := congrArg TargetKey.owner same
    rw [owned player b t here, owned player' b' t' there] at owners
    exact apart owners

/-! ### Targets of a rule -/

/-- Drones that are gathered along distinct lanes of some boards have distinct keys. -/
theorem unambiguous_gathered (labelled : s.field.Labelled) {lanes : List LaneId}
    (distinct : lanes.Nodup) (word : String) (test : LaneId → Drone → PlayerId → Bool) :
    Unambiguous ((s.boards word).flatMap fun (owner, board) =>
      (board.dronesAlong lanes).filterMap fun (lane, d) =>
        if test lane d owner then some (.ofDrone d owner lane) else none) := by
  refine unambiguous_flatMap_boards labelled _ ?_ ?_
  · intro owner b t mem
    obtain ⟨e, -, made⟩ := List.mem_filterMap.1 mem
    obtain ⟨-, made⟩ := Option.ite_none_right_eq_some.1 made
    rw [← Option.some.inj made]
    rfl
  · intro owner b board
    refine board.unambiguous_along distinct ?_
    intro e t made
    obtain ⟨-, made⟩ := Option.ite_none_right_eq_some.1 made
    rw [← Option.some.inj made]
    rfl

theorem unambiguous_droneTargets (labelled : s.field.Labelled) (rule : Targeting) :
    Unambiguous (s.droneTargets rule) :=
  unambiguous_gathered labelled (nodup_scope labelled.lanes _) _
    fun lane d owner => s.dronePasses d lane owner rule.demands none

theorem unambiguous_laneTargets (labelled : s.field.Labelled) (rule : Targeting) :
    Unambiguous (s.laneTargets rule) := by
  refine unambiguous_flatMap_boards labelled _ ?_ ?_
  · intro owner b t mem
    obtain ⟨lane, -, rfl⟩ := List.mem_map.1 mem
    rfl
  · intro owner b _
    exact unambiguous_map_ofLane ((nodup_scope labelled.lanes _).filter _) owner

theorem unambiguous_sectionTargets (labelled : s.field.Labelled) (rule : Targeting) :
    Unambiguous (s.sectionTargets rule) := by
  refine unambiguous_flatMap_boards labelled _ ?_ ?_
  · intro owner b t mem
    obtain ⟨sec, -, rfl⟩ := List.mem_map.1 mem
    rfl
  · intro owner b board
    exact unambiguous_map_filter board.sections fun _ => rfl

theorem unambiguous_selfTargets (s : Situation) : Unambiguous s.selfTargets := by
  unfold selfTargets
  split
  case h_1 => exact unambiguous_nil
  case h_2 => exact unambiguous_singleton _
  case h_3 d _ =>
      cases s.field.station? d.id with
      | none => exact unambiguous_nil
      | some st => exact unambiguous_singleton _

theorem unambiguous_handTargets (labelled : s.field.Labelled) (rule : Targeting) :
    Unambiguous (s.handTargets rule) := by
  unfold handTargets
  split
  case isFalse => exact unambiguous_nil
  case isTrue =>
      split
      case h_2 => exact unambiguous_nil
      case h_1 b owned =>
          have board := labelled.boards b (Battlefield.mem_boards_of_board? owned).1
          exact unambiguous_map_filter board.hand fun _ => rfl

theorem unambiguous_upgradeTargets (labelled : s.field.Labelled) (rule : Targeting) :
    Unambiguous (s.upgradeTargets rule) := by
  refine unambiguous_flatMap_boards labelled _ ?_ ?_
  · intro owner b t mem
    obtain ⟨⟨holder, u⟩, -, rfl⟩ := List.mem_map.1 mem
    rfl
  · intro owner b board
    exact unambiguous_map_filter board.upgrades fun _ => rfl

theorem unambiguous_slotTargets {rules : Rules} {offers : List Target}
    (labelled : s.field.Labelled) (found : s.slotTargets rules = .ok offers) :
    Unambiguous offers := by
  unfold slotTargets at found
  split at found
  case h_2 =>
      obtain rfl := pure_eq_ok_iff.1 found
      exact unambiguous_nil
  case h_1 card _ =>
      unfold slotTargetsOf at found
      split at found
      case h_2 =>
          obtain rfl := pure_eq_ok_iff.1 found
          exact unambiguous_nil
      case h_1 b owned =>
          have board := labelled.boards b (Battlefield.mem_boards_of_board? owned).1
          obtain ⟨fitting, asked, found⟩ := bind_eq_ok_iff.1 found
          obtain rfl := pure_eq_ok_iff.1 found
          have distinct := ((sublist_of_filterM asked).map DroneType.name).nodup board.pool
          exact unambiguous_map distinct fun _ => rfl

theorem unambiguous_targetsFor {rules : Rules} {rule : Targeting} {aim : Aim}
    {offers : List Target} (labelled : s.field.Labelled)
    (found : s.targetsFor rules rule aim = .ok offers) : Unambiguous offers := by
  cases aim with
  | droneType => exact unambiguous_slotTargets labelled found
  | drone =>
      obtain rfl := pure_eq_ok_iff.1 found
      exact unambiguous_droneTargets labelled rule
  | lane =>
      obtain rfl := pure_eq_ok_iff.1 found
      exact unambiguous_laneTargets labelled rule
  | shipSection =>
      obtain rfl := pure_eq_ok_iff.1 found
      exact unambiguous_sectionTargets labelled rule
  | self =>
      obtain rfl := pure_eq_ok_iff.1 found
      exact unambiguous_selfTargets s
  | handCard =>
      obtain rfl := pure_eq_ok_iff.1 found
      exact unambiguous_handTargets labelled rule
  | upgrade =>
      obtain rfl := pure_eq_ok_iff.1 found
      exact unambiguous_upgradeTargets labelled rule
  | nothing =>
      obtain rfl := pure_eq_ok_iff.1 found
      exact unambiguous_nil

/-! ### Second targets -/

theorem unambiguous_secondaryTargets (labelled : s.field.Labelled) (primary : PrimaryChoice)
    (rule : SecondaryTargeting) : Unambiguous (s.secondaryTargets primary rule) := by
  unfold secondaryTargets
  split
  case h_1 =>
      unfold secondaryLanes
      split
      case h_1 => exact unambiguous_singleton _
      case h_2 =>
          split
          case isTrue => exact unambiguous_map_ofLane (nodup_neighbours labelled.lanes _) _
          case isFalse => exact unambiguous_nil
  case h_2 =>
      unfold secondaryDrones
      split
      case h_2 => exact unambiguous_nil
      case h_1 lane _ _ =>
          refine unambiguous_flatMap_boards labelled _ ?_ ?_
          · intro owner b t mem
            obtain ⟨d, -, rfl⟩ := List.mem_map.1 mem
            rfl
          · intro owner b board
            exact unambiguous_map_filter (board.nodup_dronesIn lane) fun _ => rfl
  case h_3 => exact unambiguous_nil

theorem labelled_afterPaying (labelled : s.field.Labelled) (payment : Option Payment) :
    (s.afterPaying payment).field.Labelled := by
  cases payment with
  | none => exact labelled
  | some p => exact Payment.labelled_applyTo labelled

end Situation

/-! ### The referee -/

namespace Referee

variable {r : Referee} {s : Situation} {rule : Targeting} {offers : List Target}

theorem unambiguous_ruleTargets (labelled : s.field.Labelled)
    (found : r.ruleTargets rule s = .ok offers) : Unambiguous offers := by
  unfold ruleTargets at found
  split at found
  case h_2 =>
      obtain rfl := pure_eq_ok_iff.1 found
      exact unambiguous_nil
  case h_1 =>
      split at found
      case isTrue => exact Situation.unambiguous_targetsFor labelled found
      case isFalse =>
          obtain rfl := pure_eq_ok_iff.1 found
          exact unambiguous_nil

theorem unambiguous_targets (labelled : s.field.Labelled) (found : r.targets s = .ok offers) :
    Unambiguous offers := by
  unfold targets at found
  split at found
  case isTrue => exact Situation.unambiguous_slotTargets labelled found
  case isFalse => exact unambiguous_ruleTargets labelled found

theorem unambiguous_costTargets (labelled : s.field.Labelled)
    (found : r.costTargets s = .ok offers) : Unambiguous offers := by
  unfold costTargets at found
  split at found
  case h_1 =>
      obtain rfl := pure_eq_ok_iff.1 found
      exact unambiguous_nil
  case h_2 cost _ =>
      obtain ⟨all, ruled, found⟩ := bind_eq_ok_iff.1 found
      have clear := unambiguous_ruleTargets labelled ruled
      split at found
      case isFalse =>
          obtain rfl := pure_eq_ok_iff.1 found
          exact clear
      case isTrue =>
          obtain ⟨-, -, found⟩ := bind_eq_ok_iff.1 found
          obtain rfl := pure_eq_ok_iff.1 found
          exact clear.filter _

theorem unambiguous_targetsAfter {payment : Option Payment} (labelled : s.field.Labelled)
    (found : r.targetsAfter s payment = .ok offers) : Unambiguous offers :=
  unambiguous_targets (s.labelled_afterPaying labelled payment) found

end Referee

end DroneTactics
