import DroneTactics.Proofs.Listing
import DroneTactics.Proofs.Targeting.Demand
import DroneTactics.Proofs.Targeting.Mobility
import DroneTactics.Proofs.Targeting.Scope

/-!
What a rule about things on the boards can hit. A place says whose side something is on, at
which position its lane is, and at which position it is itself; what is eligible at a place is
said without looking for it. The targets of the rule are what is eligible, each place once, in
the order of the places: the acting player before the opponent, lanes in lane order, and what
is in a lane or on a board in the order in which it is there.
-/

namespace DroneTactics

/-- A place on the boards. Sides of lanes have no position of their own, and sections are
counted along the board and not by lane. -/
structure Place where
  side : Nat
  lane : Nat
  position : Nat
  deriving DecidableEq, Repr

def Place.Before (p q : Place) : Prop :=
  p.side < q.side ∨ p.side = q.side ∧
    (p.lane < q.lane ∨ p.lane = q.lane ∧ p.position < q.position)

instance (p q : Place) : Decidable (p.Before q) :=
  inferInstanceAs (Decidable (_ ∨ _ ∧ (_ ∨ _ ∧ _)))

/-- Nothing occurs twice in a lane or among the sections of a board. -/
def Battlefield.Once (f : Battlefield) : Prop :=
  ∀ b ∈ f.boards, (∀ lane ∈ f.lanes, (b.dronesIn lane).Nodup) ∧ b.sections.Nodup

instance (f : Battlefield) : Decidable f.Once :=
  inferInstanceAs (Decidable (∀ b ∈ f.boards, _ ∧ _))

/-- The sides that an affinity word selects: the acting player's is the first. A word that
means nothing selects none. -/
def sidesOf : String → List Nat
  | "FRIENDLY" => [0]
  | "ENEMY" => [1]
  | "ANY" => [0, 1]
  | _ => []

theorem Affinity.eq_name_of_ofName? {word : String} {a : Affinity}
    (known : ofName? word = some a) : word = a.name := by
  unfold ofName? at known
  split at known <;> cases known <;> rfl

namespace Situation

def player? (s : Situation) : Nat → Option PlayerId
  | 0 => some s.acting
  | 1 => s.opponent?
  | _ => none

structure Sits (s : Situation) (word : String) (side : Nat) (owner : PlayerId)
    (board : Board) : Prop where
  selected : side ∈ sidesOf word
  seat : s.player? side = some owner
  owns : s.field.board? owner = some board

/-- A target is eligible for a rule with a given aim, and is at a place. -/
inductive Eligible (s : Situation) (rule : Targeting) : Aim → Place → Target → Prop
  | drone {side i k : Nat} {owner : PlayerId} {board : Board} {lane : LaneId} {d : Drone}
      (sits : s.Sits rule.affinityWord side owner board)
      (there : s.field.lanes[i]? = some lane) (reached : s.InScope i rule.location)
      (stands : (board.dronesIn lane)[k]? = some d)
      (bears : ∀ demand ∈ rule.demands, s.DroneBears d lane owner demand) :
      Eligible s rule .drone ⟨side, i, k⟩ (.ofDrone d owner lane)
  | lane {side i : Nat} {owner : PlayerId} {board : Board} {lane : LaneId}
      (sits : s.Sits rule.affinityWord side owner board)
      (there : s.field.lanes[i]? = some lane) (reached : s.InScope i rule.location)
      (bears : ∀ demand ∈ rule.demands, s.LaneBears lane owner demand) :
      Eligible s rule .lane ⟨side, i, 0⟩ (.ofLane lane owner)
  | shipSection {side k : Nat} {owner : PlayerId} {board : Board} {sec : ShipSection}
      (sits : s.Sits rule.affinityWord side owner board)
      (lies : board.sections[k]? = some sec) (intact : sec.destroyed = false)
      (exposed : s.shielded sec owner = false)
      (reached : Everywhere rule.location ∨ ∃ i, s.At sec.lane i ∧ s.InScope i rule.location)
      (bears : ∀ demand ∈ rule.demands, sec.Bears demand) :
      Eligible s rule .shipSection ⟨side, 0, k⟩ (.ofSection sec owner)

variable {s : Situation} {rule : Targeting} {owner : PlayerId} {board : Board}

/-! ### Sides and lanes -/

theorem players_eq_filter (s : Situation) (word : String) :
    s.players word =
      ((sidesOf word).filterMap s.player?).filter fun owner => (s.field.board? owner).isSome := by
  unfold players
  cases known : Affinity.ofName? word with
  | none =>
      have nobody : sidesOf word = [] := by
        unfold sidesOf
        split <;> first | rfl | cases known
      rw [nobody]
      rfl
  | some a =>
      obtain rfl := Affinity.eq_name_of_ofName? known
      cases a <;> rfl

theorem boards_eq_filterMap (s : Situation) (word : String) :
    s.boards word = (sidesOf word).filterMap fun side =>
      (s.player? side).bind fun owner => (s.field.board? owner).map (owner, ·) := by
  rw [boards, players_eq_filter, List.filterMap_filter, List.filterMap_filterMap]
  refine List.filterMap_congr fun side _ => ?_
  cases s.player? side with
  | none => rfl
  | some owner => cases s.field.board? owner <;> simp

theorem sidesOf_increasing (word : String) : (sidesOf word).Pairwise (· < ·) := by
  unfold sidesOf
  split <;> simp

/-- The boards of a rule are those on the sides that it selects, in the order of the sides. -/
theorem lists_boards (s : Situation) (word : String) :
    Lists (· < ·) (fun side e => s.Sits word side e.1 e.2) (s.boards word) := by
  rw [boards_eq_filterMap]
  refine ((Lists.of_increasing (sidesOf_increasing word)).filterMap _).congr ?_
  rintro side ⟨owner, board⟩
  constructor
  · rintro ⟨selected, seat, owns⟩
    exact ⟨side, ⟨selected, rfl⟩, by simp [seat, owns]⟩
  · rintro ⟨side', ⟨selected, rfl⟩, found⟩
    obtain ⟨player, seat, found⟩ := Option.bind_eq_some_iff.1 found
    obtain ⟨b, owns, same⟩ := Option.map_eq_some_iff.1 found
    obtain ⟨rfl, rfl⟩ := Prod.mk.inj same
    exact ⟨selected, seat, owns⟩

theorem lists_scope (distinct : s.field.lanes.Nodup) (location : Option String) :
    Lists (· < ·) (fun (i : Nat) lane => s.field.lanes[i]? = some lane ∧ s.InScope i location)
      (s.scope location) := by
  refine (Lists.of_sublist (s.scope_sublist location) distinct).congr fun i lane => ?_
  exact and_congr_right fun there => (mem_scope_iff distinct there).symm

theorem lists_dronesAlong (distinct : s.field.lanes.Nodup) (location : Option String)
    (board : Board) :
    Lists (Prod.Lex (· < ·) (· < ·))
      (fun (k : Nat × Nat) (e : LaneId × Drone) =>
        s.field.lanes[k.1]? = some e.1 ∧ s.InScope k.1 location ∧
          (board.dronesIn e.1)[k.2]? = some e.2)
      (board.dronesAlong (s.scope location)) := by
  have each : ∀ lane, Lists (· < ·)
      (fun (k : Nat) (e : LaneId × Drone) =>
        ∃ d, (board.dronesIn lane)[k]? = some d ∧ (lane, d) = e)
      ((board.dronesIn lane).map (lane, ·)) := fun lane => (Lists.positions _).map _
  refine ((lists_scope distinct location).flatMap each).congr ?_
  rintro ⟨i, k⟩ ⟨lane, d⟩
  constructor
  · rintro ⟨there, reached, stands⟩
    exact ⟨lane, ⟨there, reached⟩, d, stands, rfl⟩
  · rintro ⟨lane', ⟨there, reached⟩, d', stands, same⟩
    obtain ⟨rfl, rfl⟩ := Prod.mk.inj same
    exact ⟨there, reached, stands⟩

theorem dronePasses_iff {d : Drone} {lane : LaneId} {demands : List Restriction} :
    s.dronePasses d lane owner demands none = true ↔
      ∀ demand ∈ demands, s.DroneBears d lane owner demand := by
  simp only [dronePasses, List.all_eq_true, droneMeets_iff]

theorem sectionMeets_iff {sec : ShipSection} {demands : List Restriction} :
    demands.all sec.meets = true ↔ ∀ demand ∈ demands, sec.Bears demand := by
  simp only [List.all_eq_true, ShipSection.meets_iff]

/-- Whoever sits on a side is at play, so that the demands on lanes have their meaning. -/
theorem Sits.lanesMeet_iff {word : String} {side : Nat} {lane : LaneId}
    {demands : List Restriction} (distinct : s.field.first.player ≠ s.field.second.player)
    (sits : s.Sits word side owner board) (known : lane ∈ s.field.lanes) :
    demands.all (s.laneMeets lane owner s.field.control) = true ↔
      ∀ demand ∈ demands, s.LaneBears lane owner demand := by
  obtain ⟨other, opposed⟩ : ∃ other, s.opponent? = some other := by
    match side, sits.seat with
    | 0, acts => exact Battlefield.exists_opponent (Option.some.inj acts ▸ sits.owns)
    | 1, opposed => exact ⟨owner, opposed⟩
  simp only [List.all_eq_true, laneMeets_iff distinct opposed sits.owns known]

/-! ### The three aims -/

theorem lists_droneTargets (distinct : s.field.lanes.Nodup) (rule : Targeting) :
    Lists Place.Before (s.Eligible rule .drone) (s.droneTargets rule) := by
  have each : ∀ e : PlayerId × Board, _ := fun e =>
    (s.lists_dronesAlong distinct rule.location e.2).filterMap fun x =>
      if s.dronePasses x.2 x.1 e.1 rule.demands none then some (Target.ofDrone x.2 e.1 x.1)
      else none
  refine ((s.lists_boards rule.affinityWord).flatMap each).rename
    (fun k => ⟨k.1, k.2.1, k.2.2⟩) ?_ ?_
  · intro j k lex
    rw [Prod.lex_iff, Prod.lex_iff] at lex
    exact lex
  intro place t
  constructor
  · intro eligible
    cases eligible with
    | @drone side i k owner board lane d sits there reached stands bears =>
        exact ⟨(side, i, k), rfl, (owner, board), sits, (lane, d), ⟨there, reached, stands⟩,
          if_pos (dronePasses_iff.2 bears)⟩
  · rintro ⟨⟨side, i, k⟩, rfl, ⟨owner, board⟩, sits, ⟨lane, d⟩, ⟨there, reached, stands⟩, made⟩
    obtain ⟨passes, same⟩ := Option.ite_none_right_eq_some.1 made
    obtain rfl := Option.some.inj same
    exact .drone sits there reached stands (dronePasses_iff.1 passes)

theorem lists_laneTargets (players : s.field.first.player ≠ s.field.second.player)
    (distinct : s.field.lanes.Nodup) (rule : Targeting) :
    Lists Place.Before (s.Eligible rule .lane) (s.laneTargets rule) := by
  have each : ∀ e : PlayerId × Board, _ := fun e =>
    ((s.lists_scope distinct rule.location).filter fun lane =>
      rule.demands.all (s.laneMeets lane e.1 s.field.control)).map (Target.ofLane · e.1)
  refine ((s.lists_boards rule.affinityWord).flatMap each).rename (fun k => ⟨k.1, k.2, 0⟩) ?_ ?_
  · intro j k lex
    rcases Prod.lex_iff.1 lex with side | ⟨side, lane⟩
    · exact .inl side
    · exact .inr ⟨side, .inl lane⟩
  intro place t
  constructor
  · intro eligible
    cases eligible with
    | @lane side i owner board lane sits there reached bears =>
        have known : lane ∈ s.field.lanes := List.mem_of_getElem? there
        exact ⟨(side, i), rfl, (owner, board), sits, lane,
          ⟨⟨there, reached⟩, (sits.lanesMeet_iff players known).2 bears⟩, rfl⟩
  · rintro ⟨⟨side, i⟩, rfl, ⟨owner, board⟩, sits, lane, ⟨⟨there, reached⟩, meets⟩, rfl⟩
    have known : lane ∈ s.field.lanes := List.mem_of_getElem? there
    exact .lane sits there reached ((sits.lanesMeet_iff players known).1 meets)

theorem lists_sectionTargets (distinct : s.field.lanes.Nodup) (rule : Targeting) :
    Lists Place.Before (s.Eligible rule .shipSection) (s.sectionTargets rule) := by
  have each : ∀ e : PlayerId × Board, _ := fun e =>
    ((Lists.positions e.2.sections).filter fun sec =>
      !sec.destroyed && s.reaches rule.location sec.lane && !s.shielded sec e.1
        && rule.demands.all sec.meets).map (Target.ofSection · e.1)
  refine ((s.lists_boards rule.affinityWord).flatMap each).rename (fun k => ⟨k.1, 0, k.2⟩) ?_ ?_
  · intro j k lex
    rcases Prod.lex_iff.1 lex with side | ⟨side, position⟩
    · exact .inl side
    · exact .inr ⟨side, .inr ⟨rfl, position⟩⟩
  intro place t
  constructor
  · intro eligible
    cases eligible with
    | @shipSection side k owner board sec sits lies intact exposed reached bears =>
        refine ⟨(side, k), rfl, (owner, board), sits, sec, ⟨lies, ?_⟩, rfl⟩
        simp only [intact, exposed, (reaches_iff distinct).2 reached, sectionMeets_iff.2 bears,
          Bool.not_false, Bool.and_self]
  · rintro ⟨⟨side, k⟩, rfl, ⟨owner, board⟩, sits, sec, ⟨lies, passes⟩, rfl⟩
    simp only [Bool.and_eq_true, Bool.not_eq_true'] at passes
    obtain ⟨⟨⟨intact, reached⟩, exposed⟩, meets⟩ := passes
    exact .shipSection sits lies intact exposed ((reaches_iff distinct).1 reached)
      (sectionMeets_iff.1 meets)

/-! ### One place each -/

theorem player?_inj (players : s.field.first.player ≠ s.field.second.player) {i j : Nat}
    (seat : s.player? i = some owner) (seat' : s.player? j = some owner) : i = j := by
  match i, j, seat, seat' with
  | 0, 0, _, _ => rfl
  | 1, 1, _, _ => rfl
  | 0, 1, acts, opposed =>
      exact absurd (Option.some.inj acts) (Battlefield.ne_of_opponent? players opposed)
  | 1, 0, opposed, acts =>
      exact absurd (Option.some.inj acts) (Battlefield.ne_of_opponent? players opposed)

/-- Where nothing occurs twice, a target is eligible at one place only. -/
theorem Eligible.place_unique (players : s.field.first.player ≠ s.field.second.player)
    (distinct : s.field.lanes.Nodup) (once : s.field.Once) {aim : Aim} {p q : Place}
    {t u : Target} (here : s.Eligible rule aim p t) (there : s.Eligible rule aim q u)
    (same : t = u) : p = q := by
  cases here with
  | @drone side i k owner board lane d sits lane_at _ stands =>
      cases there with
      | @drone side' i' k' owner' board' lane' d' sits' lane_at' _ stands' =>
          simp only [Target.ofDrone, Target.mk.injEq, Option.some.injEq, Entity.drone.injEq] at same
          obtain ⟨-, -, rfl, rfl, rfl, -⟩ := same
          obtain rfl : board = board' := Option.some.inj (sits.owns.symm.trans sits'.owns)
          obtain rfl := player?_inj players sits.seat sits'.seat
          obtain rfl := position_unique distinct lane_at lane_at'
          have listed := (Battlefield.mem_boards_of_board? sits.owns).1
          have nodup := (once board listed).1 lane (List.mem_of_getElem? lane_at)
          obtain rfl := position_unique nodup stands stands'
          rfl
  | @lane side i owner board lane sits lane_at =>
      cases there with
      | @lane side' i' owner' board' lane' sits' lane_at' =>
          simp only [Target.ofLane, Target.mk.injEq] at same
          obtain ⟨-, rfl, rfl, -⟩ := same
          obtain rfl := player?_inj players sits.seat sits'.seat
          obtain rfl := position_unique distinct lane_at lane_at'
          rfl
  | @shipSection side k owner board sec sits lies =>
      cases there with
      | @shipSection side' k' owner' board' sec' sits' lies' =>
          simp only [Target.ofSection, Target.mk.injEq, Option.some.injEq,
            Entity.shipSection.injEq] at same
          obtain ⟨-, -, rfl, -, rfl, -⟩ := same
          obtain rfl : board = board' := Option.some.inj (sits.owns.symm.trans sits'.owns)
          obtain rfl := player?_inj players sits.seat sits'.seat
          have listed := (Battlefield.mem_boards_of_board? sits.owns).1
          obtain rfl := position_unique (once board listed).2 lies lies'
          rfl

end Situation

/-! ### The referee -/

namespace Referee

/-- The targets of a rule about things on the boards are what is eligible, in canonical order
and one for each place; if nothing occurs twice in a lane or on a board, no target does. -/
theorem lists_eligible_targets (r : Referee) (s : Situation) (aim : Aim)
    (plain : s.definition.isUpgrade = false)
    (aims : s.definition.targeting.aim? = some aim) (board : aim.OnBoard)
    (inPlay : aim ∈ r.aims) (players : s.field.first.player ≠ s.field.second.player)
    (distinct : s.field.lanes.Nodup) :
    ∃ offers, r.targets s = .ok offers ∧
      Lists Place.Before (s.Eligible s.definition.targeting aim) offers ∧
      (s.field.Once → offers.Nodup) := by
  have found : r.targets s = s.targetsFor r.rules s.definition.targeting aim := by
    simp [targets, plain, ruleTargets, aims, inPlay]
  have complete : ∀ offers, Lists Place.Before (s.Eligible s.definition.targeting aim) offers →
      r.targets s = .ok offers → ∃ offers, r.targets s = .ok offers ∧
        Lists Place.Before (s.Eligible s.definition.targeting aim) offers ∧
        (s.field.Once → offers.Nodup) := by
    intro offers lists found
    refine ⟨offers, found, lists, fun once => lists.nodup ?_ ?_⟩
    · intro p less
      rcases less with side | ⟨-, lane | ⟨-, position⟩⟩ <;> omega
    · intro p q t here there
      exact here.place_unique players distinct once there rfl
  rcases board with rfl | rfl | rfl
  · exact complete _ (Situation.lists_droneTargets distinct _) found
  · exact complete _ (Situation.lists_laneTargets players distinct _) found
  · exact complete _ (Situation.lists_sectionTargets distinct _) found

def strike : Card where
  id := "STRIKE"
  name := "Strike"
  targeting :=
    { type := "DRONE", location := some "ADJACENT_LANE"
      restrictions := [.limit { stat := "attack", comparison := "GTE", value := 3 }] }

def struck : List Target :=
  [.ofDrone raider "player2" "lane2", .ofDrone bomber "player2" "lane2"]

/-- Beside the scout are a drone of its own side, which is too weak, and two others, which are
hit in the order in which they stand. -/
theorem skirmish_strike :
    (skirmish (.card strike)).targets = .ok struck ∧
    Lists Place.Before ((skirmish (.card strike)).Eligible strike.targeting .drone) struck ∧
    (skirmish (.card strike)).field.Once ∧ struck.Nodup := by
  obtain ⟨offers, found, lists, nodup⟩ := lists_eligible_targets {} (skirmish (.card strike))
    .drone rfl rfl (.inl rfl) (by decide) (by decide) (by decide)
  have shown : Referee.targets {} (skirmish (.card strike)) = .ok struck := rfl
  obtain rfl : offers = struck := Except.ok.inj (found.symm.trans shown)
  have once : (skirmish (.card strike)).field.Once := by decide
  exact ⟨shown, lists, once, nodup once⟩

end Referee

end DroneTactics
