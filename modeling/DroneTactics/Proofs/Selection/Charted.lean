import DroneTactics.Proofs.Selection.Located

/-!
Lanes that the field names. A rule reaches no other lane, and what it offers stands in a lane
that it reaches, so neither a drone nor a lane is offered off the field. Only second drones are
looked for in the lane of the first target, whatever that is. A section may be behind a lane
that the field does not name, and then the drones that stand there are offered.
-/

namespace DroneTactics

/-- A target, if it is a drone or a lane, is in a lane of the field. -/
def Battlefield.Charts (f : Battlefield) (t : Target) : Prop :=
  t.kind = .drone ∨ t.kind = .lane → ∃ lane ∈ f.lanes, t.lane = some lane

/-- Second drones are asked for, and the first target is a section behind no lane of the
field. -/
def CardPhase.Strays (f : Battlefield) : CardPhase → Prop
  | .secondary card primary _ _ => card.secondary.bind SecondaryTargeting.aim? = some .drone ∧
      primary.target.kind = .shipSection ∧ ∀ lane ∈ f.lanes, primary.lane ≠ some lane
  | _ => False

/-! ### Targets -/

namespace Battlefield

variable {f : Battlefield} {t : Target} {lane : LaneId} {owner : PlayerId}

theorem ShowsInLane.charts (shown : f.ShowsInLane t) : f.Charts t := by
  obtain ⟨st, mem, rfl⟩ := shown
  obtain ⟨b, -, -, known, -⟩ := mem_stations_iff.1 mem
  exact fun _ => ⟨st.lane, known, rfl⟩

theorem charts_ofLane (known : lane ∈ f.lanes) : f.Charts (.ofLane lane owner) :=
  fun _ => ⟨lane, known, rfl⟩

/-- Whoever owns them, the lanes beside a lane are lanes of the field. -/
theorem charts_of_mem_neighbours {source : Option LaneId}
    (mem : t ∈ (f.neighbours source).map (.ofLane · owner)) : f.Charts t := by
  obtain ⟨lane, beside, rfl⟩ := List.mem_map.1 mem
  exact charts_ofLane ((neighbours_sublist _ _).subset beside)

theorem charts_ofDrone_iff {d : Drone} : f.Charts (.ofDrone d owner lane) ↔ lane ∈ f.lanes := by
  simp [Charts, Target.ofDrone]

end Battlefield

/-- What is in a lane is a drone, a lane or a section. -/
theorem Aim.Offers.kind_of_lane {aim : Aim} {t : Target} {lane : LaneId} (h : aim.Offers t)
    (there : t.lane = some lane) :
    (t.kind = .drone ∨ t.kind = .lane) ∨ t.kind = .shipSection := by
  cases aim with
  | drone => obtain ⟨d, owner, lane', rfl⟩ := h; exact .inl (.inl rfl)
  | lane => obtain ⟨lane', owner, rfl⟩ := h; exact .inl (.inr rfl)
  | shipSection => obtain ⟨sec, owner, rfl⟩ := h; exact .inr rfl
  | self =>
      rcases h with ⟨sec, owner, rfl⟩ | ⟨d, owner, lane', rfl⟩
      · exact .inr rfl
      · exact .inl (.inl rfl)
  | handCard => obtain ⟨c, owner, rfl⟩ := h; cases there
  | upgrade => obtain ⟨u, owner, holder, rfl⟩ := h; cases there
  | droneType => obtain ⟨type, owner, rfl⟩ := h; cases there
  | nothing => exact h.elim

namespace Situation

variable {s : Situation} {t : Target} {payment : Option Payment}

theorem charts_of_mem_laneTargets {rule : Targeting} (mem : t ∈ s.laneTargets rule) :
    s.field.Charts t := by
  obtain ⟨⟨owner, board⟩, -, inside⟩ := List.mem_flatMap.1 mem
  obtain ⟨lane, reached, rfl⟩ := List.mem_map.1 inside
  have known := (s.scope_sublist rule.location).subset (List.mem_filter.1 reached).1
  exact Battlefield.charts_ofLane known

@[simp] theorem lanes_afterPaying : (s.afterPaying payment).field.lanes = s.field.lanes := by
  cases payment with
  | none => rfl
  | some p => exact Payment.lanes_applyTo

/-- Second drones stand in the lane of the first target. -/
theorem lane_of_second_drone {primary : PrimaryChoice} {rule : SecondaryTargeting}
    (aims : rule.aim? = some .drone) (mem : t ∈ s.secondaryTargets primary rule) :
    ∃ d owner lane, primary.lane = some lane ∧ t = .ofDrone d owner lane := by
  simp only [secondaryTargets, aims, secondaryDrones] at mem
  split at mem
  case h_1 lane _ there =>
      obtain ⟨⟨owner, board⟩, -, inside⟩ := List.mem_flatMap.1 mem
      obtain ⟨d, -, rfl⟩ := List.mem_map.1 inside
      exact ⟨d, owner, lane, there, rfl⟩
  case h_2 => exact absurd mem List.not_mem_nil

theorem charts_of_mem_secondaryLanes {primary : PrimaryChoice} {rule : SecondaryTargeting}
    (mem : t ∈ s.secondaryLanes primary rule) : s.field.Charts t := by
  unfold secondaryLanes at mem
  split at mem
  case h_1 lane rest named =>
      have known : lane ∈ s.onlyKnown rule.location := named ▸ List.mem_cons_self
      rw [List.mem_singleton.1 mem]
      exact Battlefield.charts_ofLane (mem_onlyKnown_iff.1 known).2
  case h_2 =>
      split at mem
      case isTrue => exact Battlefield.charts_of_mem_neighbours mem
      case isFalse => exact absurd mem List.not_mem_nil

/-- A second target is on the field unless it is a drone beside a first target that is not. -/
theorem charts_secondary_iff {primary : PrimaryChoice} {rule : SecondaryTargeting}
    (mem : t ∈ s.secondaryTargets primary rule) : s.field.Charts t ↔
      (rule.aim? = some .drone → ∃ lane ∈ s.field.lanes, primary.lane = some lane) := by
  by_cases aims : rule.aim? = some .drone
  · obtain ⟨d, owner, lane, there, rfl⟩ := lane_of_second_drone aims mem
    rw [Battlefield.charts_ofDrone_iff]
    simp [aims, there]
  · refine iff_of_true ?_ fun seeks => absurd seeks aims
    unfold secondaryTargets at mem
    split at mem
    case h_1 => exact charts_of_mem_secondaryLanes mem
    case h_2 seeks => exact absurd seeks aims
    case h_3 => exact absurd mem List.not_mem_nil

end Situation

namespace Referee

variable {r : Referee} {s : Situation} {rule : Targeting} {offers : List Target} {t : Target}

/-- The drones and the lanes that a rule offers are on the field. -/
theorem charts_of_mem_ruleTargets (found : r.ruleTargets rule s = .ok offers)
    (mem : t ∈ offers) : s.field.Charts t := by
  intro placed
  obtain ⟨aim, offered, ruled⟩ := targetsFor_of_mem_ruleTargets found mem
  rcases placed with drone | lane
  · exact (shownInLane_of_mem_ruleTargets found mem drone).charts (.inl drone)
  · obtain rfl := offered.aim_of_lane lane
    obtain rfl := pure_eq_ok_iff.1 ruled
    exact Situation.charts_of_mem_laneTargets mem (.inr lane)

theorem charts_of_mem_costTargets (found : r.costTargets s = .ok offers) (mem : t ∈ offers) :
    s.field.Charts t := by
  obtain ⟨rule, all, ruled, inside⟩ := ruleTargets_of_mem_costTargets found mem
  exact charts_of_mem_ruleTargets ruled inside

theorem charts_of_mem_targets (found : r.targets s = .ok offers) (mem : t ∈ offers) :
    s.field.Charts t := by
  rcases ruleTargets_of_mem_targets found mem with type | ruled
  · rintro (drone | lane)
    · cases type.symm.trans drone
    · cases type.symm.trans lane
  · exact charts_of_mem_ruleTargets ruled mem

/-- A target in a lane that the field does not name is a section behind it. -/
theorem section_of_uncharted (found : r.targets s = .ok offers) (mem : t ∈ offers)
    {lane : LaneId} (there : t.lane = some lane) (unknown : lane ∉ s.field.lanes) :
    t.kind = .shipSection := by
  have uncharted : ¬(t.kind = .drone ∨ t.kind = .lane) := by
    intro placed
    obtain ⟨known, listed, same⟩ := charts_of_mem_targets found mem placed
    obtain rfl : lane = known := Option.some.inj (there.symm.trans same)
    exact unknown listed
  unfold targets at found
  split at found
  case isTrue =>
      obtain ⟨type, owner, rfl⟩ := Situation.offers_of_mem_slotTargets found mem
      cases there
  case isFalse =>
      obtain ⟨aim, offered, -⟩ := targetsFor_of_mem_ruleTargets found mem
      exact (offered.kind_of_lane there).resolve_left uncharted

end Referee

/-! ### Cards -/

namespace CardFlow

variable {r : Referee} {s : Situation} {card : Card} {phase : CardPhase}

theorem lanes_whenPaid (s : Situation) (card : Card) (payment : Option Payment) :
    (s.whenPaid card payment).field.lanes = s.field.lanes := by
  rw [field_whenPaid, Situation.lanes_afterPaying]

theorem charts_whenPaid_iff {payment : Option Payment} {t : Target} :
    (s.whenPaid card payment).field.Charts t ↔ s.field.Charts t := by
  rw [Battlefield.Charts, lanes_whenPaid, Battlefield.Charts]

/-- A first target that is in no lane of the field, and is followed by a drone in its lane,
is a section. -/
theorem section_of_follows {payment : Option Payment} {firsts seconds : List Target}
    {target : Target} {lane : LaneId} (aims : Aims r s card payment firsts)
    (first : FirstOf firsts target)
    (follows : Follows s card payment target (some lane) seconds)
    (unknown : lane ∉ s.field.lanes) : target.kind = .shipSection := by
  rw [← lanes_whenPaid s card payment] at unknown
  have located := follows.located
  unfold Battlefield.Locates at located
  split at located
  case isTrue =>
      -- A drone is looked up, and is found in lanes of the field only.
      obtain ⟨st, found, same⟩ := located
      rw [Option.some.inj same] at unknown
      exact absurd (Battlefield.lane_of_station? found) unknown
  case isFalse => exact Referee.section_of_uncharted aims.found first.mem located.symm unknown

/-- The offers of a phase are on the field unless they are drones beside a section that is
not. -/
theorem charts_iff_of_legal (legal : Legal r s card phase) :
    (∀ t ∈ phase.offers, s.field.Charts t) ↔ ¬phase.Strays s.field := by
  cases phase with
  | idle => simp [CardPhase.offers, CardPhase.Strays]
  | complete => simp [CardPhase.offers, CardPhase.Strays]
  | cost c offers =>
      obtain ⟨-, -, found, -⟩ := legal
      refine iff_of_true (fun t mem => ?_) id
      exact Referee.charts_of_mem_costTargets (s := s.playedAs (.card card)) found mem
  | costDestination c payment offers =>
      obtain ⟨-, -, -, -, rfl⟩ := legal
      exact iff_of_true (fun t mem => Battlefield.charts_of_mem_neighbours mem) id
  | effect c payment offers =>
      obtain ⟨-, aims, -⟩ := legal
      refine iff_of_true (fun t mem => ?_) id
      have there : (s.whenPaid card payment).field.Charts t :=
        Referee.charts_of_mem_targets aims.found mem
      exact charts_whenPaid_iff.1 there
  | secondary c primary payment offers =>
      obtain ⟨rfl, ⟨firsts, aims, first⟩, follows, remains⟩ := legal
      obtain ⟨rule, double, rfl⟩ := follows.found
      have charts_iff : ∀ t ∈ (s.whenPaid c payment).secondaryTargets
          ⟨primary.target, primary.lane, primary.target.owner⟩ rule, s.field.Charts t ↔
          (rule.aim? = some .drone → ∃ lane ∈ s.field.lanes, primary.lane = some lane) := by
        intro t mem
        rw [← charts_whenPaid_iff, Situation.charts_secondary_iff mem, lanes_whenPaid]
      simp only [CardPhase.Strays, double, Option.bind_some]
      constructor
      · rintro charted ⟨seeks, -, nowhere⟩
        obtain ⟨t, mem⟩ := List.exists_mem_of_ne_nil _ remains
        obtain ⟨lane, known, there⟩ := (charts_iff t mem).1 (charted t mem) seeks
        exact nowhere lane known there
      · intro keeps t mem
        refine (charts_iff t mem).2 fun seeks => ?_
        obtain ⟨d, owner, lane, there, -⟩ := Situation.lane_of_second_drone seeks mem
        refine ⟨lane, Classical.byContradiction fun unknown => keeps ⟨seeks, ?_, ?_⟩, there⟩
        · have follows : Follows s c payment primary.target (some lane) _ := there ▸ follows
          exact section_of_follows aims first follows unknown
        · rintro other known same
          obtain rfl := Option.some.inj (there.symm.trans same)
          exact unknown known

end CardFlow

/-! ### Moves -/

namespace MoveFlow

variable {rules : Rules} {s : Situation} {phase first : MovePhase} {events : List Event}
  {t : Target}

theorem charts_of_single (begins : begin rules s .single = .ok first)
    (run : (advance rules).Leads s first events phase) (mem : t ∈ phase.offers) :
    s.field.Charts t := by
  have singling := singling_of_leads begins run
  have departing : Departing s phase :=
    run.invariant departing_of_advance (departing_of_begin begins)
  cases phase with
  | idle => exact absurd mem List.not_mem_nil
  | complete => exact absurd mem List.not_mem_nil
  | drone offers => exact (departing t mem).charts
  | destination drone lane offers =>
      obtain ⟨-, st, -, -, rfl⟩ := departing
      exact Battlefield.charts_of_mem_neighbours mem
  | sourceLane => exact singling.elim
  | drones => exact singling.elim
  | destinationLane => exact singling.elim

theorem charts_of_group (run : (advance rules).Leads s (beginGroup s) events phase)
    (mem : t ∈ phase.offers) : s.field.Charts t := by
  have grouping := grouping_of_leads run
  cases phase with
  | idle => exact absurd mem List.not_mem_nil
  | complete => exact absurd mem List.not_mem_nil
  | drone => exact grouping.elim
  | destination => exact grouping.elim
  | sourceLane count offers =>
      obtain ⟨-, rfl⟩ := MovePhase.sourceLane.inj grouping
      obtain ⟨lane, held, rfl⟩ := List.mem_map.1 mem
      split at held
      case h_1 => exact Battlefield.charts_ofLane (List.mem_filter.1 held).1
      case h_2 => exact absurd held List.not_mem_nil
  | drones lane count selected offers =>
      obtain ⟨-, board, source, rfl, -⟩ := grouping
      obtain ⟨d, -, rfl⟩ := List.mem_map.1 mem
      exact Battlefield.charts_ofDrone_iff.2 source.inside
  | destinationLane lane selected offers =>
      obtain ⟨-, rfl⟩ := grouping
      exact Battlefield.charts_of_mem_neighbours mem

end MoveFlow

/-! ### Both flows -/

/-- On boards that stay as they are the flows offer drones and lanes of the field only, unless
second drones are asked for beside a section that is off the field. -/
theorem charted_of_flows (r : Referee) (rules : Rules) (s : Situation) :
    (∀ card events phase, CardFlow.Reached r s card events phase →
      ((∀ t ∈ phase.offers, s.field.Charts t) ↔ ¬phase.Strays s.field)) ∧
    (∀ kind first events phase, MoveFlow.begin rules s kind = .ok first →
      (MoveFlow.advance rules).Leads s first events phase →
      ∀ t ∈ phase.offers, s.field.Charts t) := by
  constructor
  · intro card events phase reached
    exact CardFlow.charts_iff_of_legal reached.legal
  · intro kind first events phase begins run t mem
    cases kind with
    | single => exact MoveFlow.charts_of_single begins run mem
    | group =>
        obtain rfl := pure_eq_ok_iff.1 begins
        exact MoveFlow.charts_of_group run mem

/-! ### A section off the field -/

def detach : Card where
  id := "DETACH"
  name := "Detach"
  targeting := { type := "SHIP_SECTION", affinity := some "FRIENDLY" }
  secondary := some { type := "DRONE", location := some "PRIMARY_SOURCE_LANE" }

def annex : ShipSection := { id := "annex", lane := some "lane9" }

def outpost : Situation where
  acting := "player1"
  field :=
    { first :=
        { player := "player1"
          drones := .ofList [("lane9", [scout])]
          sections := [annex] }
      second := { player := "player2" }
      lanes := ["lane1"] }
  definition := .card detach

def detaching : CardPhase :=
  .secondary detach ⟨.ofSection annex "player1", some "lane9", "player1"⟩ none
    [.ofDrone scout "player1" "lane9"]

theorem reached_detaching :
    CardFlow.Reached {} outpost detach [.select (.ofSection annex "player1")] detaching :=
  ⟨_, rfl, .cons rfl (.nil _ _)⟩

/-- The scout is offered in a lane that the field does not name. -/
theorem detaches_off_the_field :
    CardFlow.Reached {} outpost detach [.select (.ofSection annex "player1")] detaching ∧
      Target.ofDrone scout "player1" "lane9" ∈ detaching.offers ∧
      ¬outpost.field.Charts (.ofDrone scout "player1" "lane9") := by
  refine ⟨reached_detaching, List.mem_cons_self, ?_⟩
  rw [Battlefield.charts_ofDrone_iff]
  decide

/-- The flow for the scout before the annex strays; one that moves the scout between lanes of
the field does not. -/
theorem outpost_strays :
    (CardFlow.Reached {} outpost detach [.select (.ofSection annex "player1")] detaching ∧
      detaching.Strays outpost.field ∧ ¬∀ t ∈ detaching.offers, outpost.field.Charts t) ∧
    (MoveFlow.begin {} patrol .single = .ok (.drone [scoutTarget]) ∧
      (MoveFlow.advance {}).Leads patrol (.drone [scoutTarget]) [.select scoutTarget]
        (.destination scoutTarget "lane1" [.ofLane "lane2" "player1"]) ∧
      patrol.field.Charts (.ofLane "lane2" "player1")) := by
  have strays : detaching.Strays outpost.field := ⟨rfl, rfl, by decide⟩
  have begins : MoveFlow.begin {} patrol .single = .ok (.drone [scoutTarget]) := rfl
  have run : (MoveFlow.advance {}).Leads patrol (.drone [scoutTarget]) [.select scoutTarget]
      (.destination scoutTarget "lane1" [.ofLane "lane2" "player1"]) := .cons rfl (.nil _ _)
  refine ⟨⟨reached_detaching, strays, fun charted => ?_⟩, begins, run, ?_⟩
  · exact ((charted_of_flows {} {} outpost).1 _ _ _ reached_detaching).1 charted strays
  · exact (charted_of_flows {} {} patrol).2 _ _ _ _ begins run _ List.mem_cons_self

end DroneTactics
