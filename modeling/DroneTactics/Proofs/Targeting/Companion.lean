import DroneTactics.Proofs.Targeting.Mobility
import DroneTactics.Proofs.Targeting.Muster
import DroneTactics.Targeting.Secondary

/-!
Second drones. A second choice among the drones in the lane of the first looks for them as a
rule for that lane does. It leaves out the first choice and those that do not stand in the
relations to it that are demanded; a relation that leaves something open leaves out nobody.
-/

namespace DroneTactics

def relationsOf (demands : List Restriction) : List StatRelation :=
  demands.filterMap fun
    | .relation rel => some rel
    | _ => none

theorem mem_relationsOf_iff {demands : List Restriction} {rel : StatRelation} :
    rel ∈ relationsOf demands ↔ .relation rel ∈ demands := by
  rw [relationsOf, List.mem_filterMap]
  constructor
  · rintro ⟨demand, mem, same⟩
    split at same
    case h_1 => exact Option.some.inj same ▸ mem
    case h_2 => cases same
  · intro mem
    exact ⟨_, mem, rfl⟩

/-- A first choice that is a drone is what relations refer to. -/
theorem PrimaryChoice.reference?_of_drone? {primary : PrimaryChoice} {first : Drone}
    (chosen : primary.target.drone? = some first) (lane : LaneId) :
    primary.reference? lane = some ⟨first, lane, primary.owner⟩ := by
  unfold Target.drone? at chosen
  split at chosen
  case h_1 d entity =>
      obtain rfl := Option.some.inj chosen
      rw [reference?, entity]
  case h_2 => cases chosen

namespace Situation

/-- A drone stands in a relation to another one: the relation or one of the drones leaves
something open, or the comparison of their effective values holds. Each value is the one that the
drone has under its owner and in its lane. -/
inductive Related (s : Situation) (other : Reference) (st : Station) (rel : StatRelation) : Prop
  | noStat (unsaid : rel.stat = none)
  | noReferenceStat (unsaid : rel.referenceStat = none)
  | noComparison (unknown : rel.comparison.bind Comparison.ofName? = none)
  | noValue {name : String} (said : rel.stat = some name)
      (unvalued : s.value? st.drone st.lane st.owner name = none)
  | noReferenceValue {name : String} (said : rel.referenceStat = some name)
      (unvalued : s.value? other.drone other.lane other.owner name = none)
  | holds {name otherName word : String} {v w : StatValue} (said : rel.stat = some name)
      (valued : s.value? st.drone st.lane st.owner name = some v)
      (otherSaid : rel.referenceStat = some otherName)
      (otherValued : s.value? other.drone other.lane other.owner otherName = some w)
      (compared : rel.comparison = some word) (true_of : v.compareByName word w = true)

variable {s : Situation} {other : Reference} {st : Station}

/-- Nothing goes by an empty name. -/
theorem value?_empty (s : Situation) (d : Drone) (lane : LaneId) (owner : PlayerId) :
    s.value? d lane owner "" = none := rfl

theorem statName?_eq_none_iff {word : Option String} :
    statName? word = none ↔ word = none ∨ word = some "" := by
  cases word with
  | none => simp [statName?]
  | some name => simp [statName?]

theorem statName?_eq_some_iff {word : Option String} {name : String} :
    statName? word = some name ↔ word = some name ∧ name ≠ "" := by
  simp [statName?, Option.filter_eq_some_iff]

/-- A name that is missing or empty leaves a relation open. -/
theorem related_of_unnamed {rel : StatRelation} (unnamed : statName? rel.stat = none) :
    s.Related other st rel := by
  rcases statName?_eq_none_iff.1 unnamed with unsaid | empty
  · exact .noStat unsaid
  · exact .noValue empty (s.value?_empty _ _ _)

theorem related_of_reference_unnamed {rel : StatRelation}
    (unnamed : statName? rel.referenceStat = none) : s.Related other st rel := by
  rcases statName?_eq_none_iff.1 unnamed with unsaid | empty
  · exact .noReferenceStat unsaid
  · exact .noReferenceValue empty (s.value?_empty _ _ _)

theorem compareByName_of_ofName? {v w : StatValue} {word : String} {c : Comparison}
    (known : Comparison.ofName? word = some c) :
    v.compareByName word w = c.holds (v.same w) (v.order? w) := by
  rw [StatValue.compareByName, known]

/-- Where both values are there and the comparison is known, it decides. -/
theorem related_iff_of_valued {rel : StatRelation} {name otherName : String} {v w : StatValue}
    {c : Comparison} (said : rel.stat = some name) (otherSaid : rel.referenceStat = some otherName)
    (valued : s.value? st.drone st.lane st.owner name = some v)
    (otherValued : s.value? other.drone other.lane other.owner otherName = some w)
    (known : rel.comparison.bind Comparison.ofName? = some c) :
    s.Related other st rel ↔ c.holds (v.same w) (v.order? w) = true := by
  obtain ⟨word, compared, parsed⟩ := Option.bind_eq_some_iff.1 known
  constructor
  · intro related
    cases related with
    | noStat unsaid => cases said.symm.trans unsaid
    | noReferenceStat unsaid => cases otherSaid.symm.trans unsaid
    | noComparison unknown => cases known.symm.trans unknown
    | noValue said' unvalued =>
        obtain rfl := Option.some.inj (said.symm.trans said')
        cases valued.symm.trans unvalued
    | noReferenceValue said' unvalued =>
        obtain rfl := Option.some.inj (otherSaid.symm.trans said')
        cases otherValued.symm.trans unvalued
    | holds said' valued' otherSaid' otherValued' compared' true_of =>
        obtain rfl := Option.some.inj (said.symm.trans said')
        obtain rfl := Option.some.inj (otherSaid.symm.trans otherSaid')
        obtain rfl := Option.some.inj (valued.symm.trans valued')
        obtain rfl := Option.some.inj (otherValued.symm.trans otherValued')
        obtain rfl := Option.some.inj (compared.symm.trans compared')
        exact (compareByName_of_ofName? parsed).symm.trans true_of
  · intro holds
    exact .holds said valued otherSaid otherValued compared
      ((compareByName_of_ofName? parsed).trans holds)

theorem keepsRelation_iff {rel : StatRelation} :
    s.keepsRelation st.drone st.lane st.owner rel (some other) = true ↔
      s.Related other st rel := by
  -- A name that is not there settles the matter before any value is looked up.
  cases named : statName? rel.stat with
  | none => exact iff_of_true (by simp [keepsRelation, named]) (related_of_unnamed named)
  | some name =>
      cases otherNamed : statName? rel.referenceStat with
      | none =>
          exact iff_of_true (by simp [keepsRelation, otherNamed])
            (related_of_reference_unnamed otherNamed)
      | some otherName =>
          have said := (statName?_eq_some_iff.1 named).1
          have otherSaid := (statName?_eq_some_iff.1 otherNamed).1
          simp only [keepsRelation, named, otherNamed]
          split
          case h_1 v w c valued otherValued known =>
              exact (related_iff_of_valued said otherSaid valued otherValued known).symm
          case h_2 unsettled =>
              refine iff_of_true rfl ?_
              cases valued : s.value? st.drone st.lane st.owner name with
              | none => exact .noValue said valued
              | some v =>
                  cases otherValued : s.value? other.drone other.lane other.owner otherName with
                  | none => exact .noReferenceValue otherSaid otherValued
                  | some w =>
                      cases known : rel.comparison.bind Comparison.ofName? with
                      | none => exact .noComparison known
                      | some c => exact absurd known (unsettled v w c valued otherValued)

instance (rel : StatRelation) : Decidable (s.Related other st rel) :=
  decidable_of_iff _ keepsRelation_iff

/-- Beside an earlier choice a drone must meet the same demands as without one, and stand in
the relations to it that are among them. -/
theorem droneMeets_reference_iff {demand : Restriction} :
    s.droneMeets st.drone st.lane st.owner (some other) demand = true ↔
      s.droneMeets st.drone st.lane st.owner none demand = true ∧
        ∀ rel, demand = .relation rel → s.Related other st rel := by
  cases demand with
  | tag word => simp [droneMeets]
  | limit l => simp [droneMeets]
  | relation rel =>
      have unasked : s.droneMeets st.drone st.lane st.owner none (.relation rel) = true := rfl
      rw [droneMeets, keepsRelation_iff]
      simp [unasked]

theorem dronePasses_reference_iff (s : Situation) (other : Reference) (st : Station)
    {demands : List Restriction} :
    s.dronePasses st.drone st.lane st.owner demands (some other) = true ↔
      s.dronePasses st.drone st.lane st.owner demands none = true ∧
        ∀ rel ∈ relationsOf demands, s.Related other st rel := by
  simp only [dronePasses, List.all_eq_true, droneMeets_reference_iff, mem_relationsOf_iff]
  constructor
  · intro meets
    exact ⟨fun demand mem => (meets demand mem).1, fun rel mem => (meets _ mem).2 rel rfl⟩
  · rintro ⟨meets, related⟩ demand mem
    exact ⟨meets demand mem, fun rel same => related rel (same ▸ mem)⟩

/-! ### The lane of the first choice -/

theorem scope_of_lane {lane : LaneId} (known : lane ∈ s.field.lanes)
    (named : Reach.ofName? lane = none) : s.scope (some lane) = [lane] := by
  simp [scope, named, onlyKnown, known]

/-- Second drones are those that a search in the lane of the first choice finds, without it and
without those that do not stand in the demanded relations to it. -/
theorem secondaryDrones_eq_muster {rule : SecondaryTargeting} {primary : PrimaryChoice}
    {first : Drone} {lane : LaneId} (reaches : rule.reach? = some .primarySourceLane)
    (chosen : primary.target.drone? = some first) (there : primary.lane = some lane) :
    s.secondaryDrones primary rule =
      ((s.muster rule.affinity [lane] rule.restrictions).filter fun st =>
        st.drone.id ≠ primary.target.id ∧ ∀ rel ∈ relationsOf rule.restrictions,
          s.Related ⟨first, lane, primary.owner⟩ st rel).map Station.target := by
  simp only [secondaryDrones, reaches, there, primary.reference?_of_drone? chosen]
  rw [muster, List.filter_flatMap, List.map_flatMap]
  congr 1
  funext seat
  obtain ⟨owner, board⟩ := seat
  dsimp only
  rw [List.flatMap_singleton, List.filter_map, List.map_map, List.filter_filter]
  refine congrArg (List.map _) (List.filter_congr fun d _ => ?_)
  have passes : s.dronePasses d lane owner rule.restrictions (some ⟨first, lane, primary.owner⟩) =
      true ↔ s.dronePasses d lane owner rule.restrictions none = true ∧
        ∀ rel ∈ relationsOf rule.restrictions,
          s.Related ⟨first, lane, primary.owner⟩ ⟨owner, lane, d⟩ rel :=
    s.dronePasses_reference_iff ⟨first, lane, primary.owner⟩ ⟨owner, lane, d⟩
  rw [Bool.eq_iff_iff, Bool.and_eq_true, Bool.and_eq_true, passes]
  simp only [decide_eq_true_eq, Function.comp_apply]
  constructor
  · rintro ⟨other, meets, related⟩
    exact ⟨⟨other, related⟩, meets⟩
  · rintro ⟨⟨other, related⟩, meets⟩
    exact ⟨other, meets, related⟩

end Situation

/-- A second choice among the drones in the lane of the first is offered what a rule for drones
of that lane offers, without the first choice and without what does not stand in the demanded
relations to it. -/
theorem secondaryTargets_of_sourceLane (r : Referee) (s : Situation) (seek : Definition)
    (rule : SecondaryTargeting) (primary : PrimaryChoice) {first : Drone} {lane : LaneId}
    (drones : Aim.drone ∈ r.aims) (aims : rule.aim? = some .drone)
    (reaches : rule.reach? = some .primarySourceLane)
    (chosen : primary.target.drone? = some first) (there : primary.lane = some lane)
    (known : lane ∈ s.field.lanes) (named : Reach.ofName? lane = none)
    (seeks : seek.Seeks rule.affinity (some lane) rule.restrictions) :
    ∃ found : List Station, r.targets (s.playedAs seek) = .ok (found.map Station.target) ∧
      s.secondaryTargets primary rule =
        (found.filter fun st => st.drone.id ≠ primary.target.id ∧
          ∀ rel ∈ relationsOf rule.restrictions,
            s.Related ⟨first, lane, primary.owner⟩ st rel).map Station.target := by
  have offered := Referee.targets_of_seeks (s := s) seeks drones
  rw [Situation.scope_of_lane known named] at offered
  refine ⟨_, offered, ?_⟩
  have second : s.secondaryTargets primary rule = s.secondaryDrones primary rule := by
    rw [Situation.secondaryTargets, aims]
  rw [second, Situation.secondaryDrones_eq_muster reaches chosen there]

/-! ### A drone that hits less hard -/

/-- Other drones in the lane of the first that hit less hard than it and that still have hull; a
relation without a comparison comes with it. -/
def weaker : SecondaryTargeting :=
  { type := "DRONE"
    affinity := "ANY"
    location := some "PRIMARY_SOURCE_LANE"
    restrictions :=
      [.relation { stat := some "attack", comparison := some "LT", referenceStat := some "attack" },
        .limit { stat := "hull", comparison := "GTE", value := 1 },
        .relation { stat := some "attack", referenceStat := some "hull" }] }

def middleBeacon : Definition :=
  .ability
    { name := "Beacon"
      targeting :=
        { type := "DRONE"
          location := some "lane2"
          restrictions := weaker.restrictions } }

/-- Beside the raider the wreck hits less hard, and the bomber does not. -/
theorem skirmish_weaker :
    let primary : PrimaryChoice := ⟨.ofDrone raider "player2" "lane2", some "lane2", "player2"⟩
    "lane2" ∈ (skirmish middleBeacon).field.lanes ∧ Reach.ofName? "lane2" = none ∧
      middleBeacon.Seeks weaker.affinity (some "lane2") weaker.restrictions ∧
      ∃ found : List Station,
        Referee.targets {} (skirmish middleBeacon) = .ok (found.map Station.target) ∧
        (found.map Station.target).map Target.id = ["wreck", "raider", "bomber"] ∧
        (skirmish middleBeacon).secondaryTargets primary weaker =
          (found.filter fun st => st.drone.id ≠ primary.target.id ∧
            ∀ rel ∈ relationsOf weaker.restrictions,
              (skirmish middleBeacon).Related ⟨raider, "lane2", "player2"⟩ st rel).map
            Station.target ∧
        (skirmish middleBeacon).secondaryTargets primary weaker =
          [.ofDrone wreck "player1" "lane2"] := by
  intro primary
  have known : "lane2" ∈ (skirmish middleBeacon).field.lanes := by decide
  have seeks : middleBeacon.Seeks weaker.affinity (some "lane2") weaker.restrictions :=
    ⟨rfl, rfl, rfl, rfl, rfl⟩
  obtain ⟨found, offered, second⟩ := secondaryTargets_of_sourceLane {} (skirmish middleBeacon)
    middleBeacon weaker primary (by decide) rfl rfl rfl rfl known rfl seeks
  have offers : found.map Station.target = [.ofDrone wreck "player1" "lane2",
      .ofDrone raider "player2" "lane2", .ofDrone bomber "player2" "lane2"] :=
    Except.ok.inj (offered.symm.trans rfl)
  have ids : (found.map Station.target).map Target.id = ["wreck", "raider", "bomber"] :=
    congrArg (List.map Target.id) offers
  exact ⟨known, rfl, seeks, found, offered, ids, second, rfl⟩

end DroneTactics
