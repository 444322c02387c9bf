import DroneTactics.Proofs.Targeting.Muster
import DroneTactics.Proofs.Targeting.Standing
import DroneTactics.Targeting.Preview
import Mathlib.Data.List.Basic

/-!
What the preview shows. A definition that aims at nothing hits the drones that a rule for drones
with its filter would find, and one that aims at lanes those of them that stand on a side of a
lane which it targets. A cap leaves the first drones of each side, except that a cap of zero
leaves them all.
-/

namespace DroneTactics

structure Definition.HitsField (d : Definition) : Prop where
  aims : d.targeting.aim? = some .nothing
  filtered : d.targeting.affectedFilter ≠ []

structure Definition.HitsLanes (d : Definition) : Prop where
  aims : d.targeting.aim? = some .lane
  harmful : ∀ e, d.effect = some e → e.type ∉ harmlessWords

def Target.StandsOn (t : Target) (sides : List Target) : Prop :=
  ∃ side ∈ sides, side.owner = t.owner ∧ t.lane = some side.id

instance (t : Target) (sides : List Target) : Decidable (t.StandsOn sides) :=
  inferInstanceAs (Decidable (∃ side ∈ sides, _ ∧ _))

namespace Situation

variable {s : Situation} {rule : Targeting} {d : Definition} {sides : List Target}

/-- The drones on a side of a lane that meet some demands, in the order in which they stand. -/
def struckOn (s : Situation) (demands : List Restriction) (side : Target) : List Drone :=
  match s.field.board? side.owner with
  | some board =>
    (board.dronesIn side.id).filter fun d => s.dronePasses d side.id side.owner demands none
  | none => []

/-! ### Hits of one search and of the other -/

theorem laneHits_of_uncapped (side : Target) (uncapped : rule.maxTargets = none) :
    s.laneHits rule side = s.struckOn rule.affectedFilter side := by
  unfold laneHits struckOn
  cases s.field.board? side.owner with
  | none => rfl
  | some board =>
      show (if rule.affectedFilter.isEmpty then _ else _) = _
      cases filtered : rule.affectedFilter with
      | nil => exact (List.filter_eq_self.2 fun d _ => rfl).symm
      | cons demand demands => simp [filteredHits, uncapped, filtered]

theorem affectedIds_of_hitsField (hits : d.HitsField) :
    s.affectedIds d sides = (s.fieldHits d.targeting).map Drone.id := by
  simp [affectedIds, hits.aims, hits.filtered]

theorem affectedIds_of_hitsLanes (hits : d.HitsLanes) :
    s.affectedIds d sides = (sides.flatMap (s.laneHits d.targeting)).map Drone.id := by
  have harmful : (d.effect.any fun e => harmlessWords.contains e.type) = false := by
    cases effect : d.effect with
    | none => rfl
    | some e => simpa using hits.harmful e effect
  simp only [affectedIds, hits.aims, harmful]
  rfl

theorem fieldHits_eq_muster (s : Situation) (rule : Targeting) :
    s.fieldHits rule =
      (s.muster rule.affinityWord s.field.lanes rule.affectedFilter).map Station.drone := by
  simp only [fieldHits, muster, List.map_flatMap, List.map_map]
  congr 1
  funext seat
  obtain ⟨owner, board⟩ := seat
  exact board.filterMap_dronesAlong _
    (fun lane d => s.dronePasses d lane owner rule.affectedFilter none) (fun _ d => d)

/-! ### Drones on sides of lanes -/

/-- Of what is on a side of a lane that a rule could reach, all stands on its targets or nothing
does. -/
theorem standsOn_laneTargets_iff {st : Station} {board : Board}
    (owned : (st.owner, board) ∈ s.boards rule.affinityWord)
    (reached : st.lane ∈ s.scope rule.location) :
    st.target.StandsOn (s.laneTargets rule) ↔
      rule.demands.all (s.laneMeets st.lane st.owner s.field.control) = true := by
  constructor
  · rintro ⟨side, offered, owner, lane⟩
    obtain ⟨⟨owner', board'⟩, -, inside⟩ := List.mem_flatMap.1 offered
    obtain ⟨lane', meets, rfl⟩ := List.mem_map.1 inside
    obtain rfl : owner' = st.owner := owner
    obtain rfl : st.lane = lane' := Option.some.inj lane
    exact (List.mem_filter.1 meets).2
  · intro meets
    refine ⟨.ofLane st.lane st.owner, ?_, rfl, rfl⟩
    exact List.mem_flatMap.2 ⟨(st.owner, board), owned,
      List.mem_map_of_mem (List.mem_filter.2 ⟨reached, meets⟩)⟩

theorem struckOn_of_mem_boards {owner : PlayerId} {board : Board} {word : String}
    (owned : (owner, board) ∈ s.boards word) (demands : List Restriction) (lane : LaneId) :
    s.struckOn demands (.ofLane lane owner) =
      (board.dronesIn lane).filter fun d => s.dronePasses d lane owner demands none := by
  have found : s.field.board? owner = some board := (mem_boards_iff.1 owned).2
  show (match s.field.board? owner with | some board => _ | none => _) = _
  rw [found]
  rfl

/-- Leaving out some places from the start is leaving out what is found there in the end. -/
theorem flatMap_filter_eq {α β : Type} {find : α → List β} {keep : α → Bool} {keeps : β → Bool}
    {places : List α} (same : ∀ a ∈ places, ∀ b ∈ find a, keeps b = keep a) :
    (places.filter keep).flatMap find = (places.flatMap find).filter keeps := by
  induction places with
  | nil => rfl
  | cons a places ih =>
      have rest := ih fun x mem => same x (List.mem_cons_of_mem a mem)
      have here := same a List.mem_cons_self
      rw [List.flatMap_cons, List.filter_append, ← rest]
      cases kept : keep a with
      | true =>
          rw [List.filter_cons_of_pos kept, List.flatMap_cons,
            List.filter_eq_self.2 fun b mem => (here b mem).trans kept]
      | false =>
          have none_kept : (find a).filter keeps = [] :=
            List.filter_eq_nil_iff.2 fun b mem => by simp [here b mem, kept]
          rw [List.filter_cons_of_neg (by simp [kept]), none_kept, List.nil_append]

/-- The drones on the sides of lanes that a rule targets are those of a search through all the
lanes that it could reach, without the ones that stand elsewhere. -/
theorem flatMap_struckOn_laneTargets (s : Situation) (rule : Targeting)
    (demands : List Restriction) :
    (s.laneTargets rule).flatMap (s.struckOn demands) =
      ((s.muster rule.affinityWord (s.scope rule.location) demands).filter fun st =>
        st.target.StandsOn (s.laneTargets rule)).map Station.drone := by
  conv_lhs => rw [laneTargets]
  rw [muster, List.flatMap_assoc, List.filter_flatMap, List.map_flatMap]
  refine List.flatMap_congr fun seat owned => ?_
  obtain ⟨owner, board⟩ := seat
  -- A side that is not targeted is left out before its drones are looked at, in the other search
  -- afterwards; the drones on a side stand on a target all together or not at all.
  have alike : ∀ lane ∈ s.scope rule.location, ∀ st ∈
      ((board.dronesIn lane).filter fun d => s.dronePasses d lane owner demands none).map
        (Station.mk owner lane), decide (st.target.StandsOn (s.laneTargets rule)) =
      rule.demands.all (s.laneMeets lane owner s.field.control) := by
    intro lane reached st mem
    obtain ⟨d, -, rfl⟩ := List.mem_map.1 mem
    rw [Bool.eq_iff_iff, decide_eq_true_iff]
    exact standsOn_laneTargets_iff owned reached
  calc (((s.scope rule.location).filter fun lane =>
            rule.demands.all (s.laneMeets lane owner s.field.control)).map
          (Target.ofLane · owner)).flatMap (s.struckOn demands)
      = (((s.scope rule.location).filter fun lane =>
            rule.demands.all (s.laneMeets lane owner s.field.control)).flatMap fun lane =>
          ((board.dronesIn lane).filter fun d => s.dronePasses d lane owner demands none).map
            (Station.mk owner lane)).map Station.drone := by
        rw [List.flatMap_map, List.map_flatMap]
        refine List.flatMap_congr fun lane _ => ?_
        rw [struckOn_of_mem_boards owned, List.map_map]
        exact (List.map_id _).symm
    _ = _ := by rw [flatMap_filter_eq alike]

end Situation

/-- The preview of a definition agrees with targeting drones by its filter: over the whole field,
or on those sides of lanes that the definition targets. -/
theorem preview_agrees_with_targeting (r : Referee) (s : Situation) (d seek : Definition)
    (drones : Aim.drone ∈ r.aims) :
    (∀ sides, d.HitsField →
      seek.Seeks d.targeting.affinityWord none d.targeting.affectedFilter →
      ∃ offers, r.targets (s.playedAs seek) = .ok offers ∧
        s.affectedIds d sides = offers.map Target.id) ∧
    (d.HitsLanes → d.isUpgrade = false → Aim.lane ∈ r.aims → d.targeting.maxTargets = none →
      seek.Seeks d.targeting.affinityWord d.targeting.location d.targeting.affectedFilter →
      ∃ sides offers, r.targets (s.playedAs d) = .ok sides ∧
        r.targets (s.playedAs seek) = .ok offers ∧
        s.affectedIds d sides = (offers.filter fun t => t.StandsOn sides).map Target.id) := by
  constructor
  · intro sides hits seeks
    refine ⟨_, Referee.targets_of_seeks seeks drones, ?_⟩
    rw [Situation.affectedIds_of_hitsField hits, Situation.fieldHits_eq_muster, List.map_map,
      List.map_map]
    rfl
  · intro hits plain lanes uncapped seeks
    have offered : r.targets (s.playedAs d) = .ok (s.laneTargets d.targeting) :=
      Referee.targets_eq_targetsFor plain hits.aims lanes
    refine ⟨_, _, offered, Referee.targets_of_seeks seeks drones, ?_⟩
    have struck : s.laneHits d.targeting = s.struckOn d.targeting.affectedFilter := by
      funext side
      exact Situation.laneHits_of_uncapped side uncapped
    rw [Situation.affectedIds_of_hitsLanes hits, struck, Situation.flatMap_struckOn_laneTargets,
      List.filter_map, List.map_map, List.map_map]
    rfl

/-! ### Hits in a skirmish -/

def sweep : Definition :=
  .ability
    { name := "Sweep"
      targeting :=
        { type := "NONE"
          affectedFilter := [.limit { stat := "hull", comparison := "GTE", value := 1 }] } }

def barrage : Definition :=
  .card
    { id := "BARRAGE"
      name := "Barrage"
      targeting :=
        { type := "LANE"
          restrictions := [.tag "ENEMY_CONTROLLED"]
          affectedFilter := [.limit { stat := "hull", comparison := "GTE", value := 1 }] }
      effect := some { type := "DAMAGE" } }

def beacon : Definition :=
  .ability
    { name := "Beacon"
      targeting :=
        { type := "DRONE"
          restrictions := [.limit { stat := "hull", comparison := "GTE", value := 1 }] } }

/-- The sweep hits all drones of the skirmish, and the barrage those in the middle lane. -/
theorem skirmish_preview :
    (sweep.HitsField ∧
      beacon.Seeks sweep.targeting.affinityWord none sweep.targeting.affectedFilter ∧
      ∃ offers, Referee.targets {} (skirmish beacon) = .ok offers ∧
        (skirmish beacon).affectedIds sweep [] = offers.map Target.id ∧
        offers.map Target.id = ["scout", "wreck", "raider", "bomber"]) ∧
    (barrage.HitsLanes ∧ barrage.isUpgrade = false ∧ barrage.targeting.maxTargets = none ∧
      beacon.Seeks barrage.targeting.affinityWord barrage.targeting.location
        barrage.targeting.affectedFilter ∧
      ∃ sides offers, Referee.targets {} (skirmish barrage) = .ok sides ∧
        Referee.targets {} (skirmish beacon) = .ok offers ∧
        (skirmish beacon).affectedIds barrage sides =
          (offers.filter fun t => t.StandsOn sides).map Target.id ∧
        (skirmish beacon).affectedIds barrage sides = ["wreck", "raider", "bomber"]) := by
  have field : sweep.HitsField := ⟨rfl, by decide⟩
  have lanes : barrage.HitsLanes := ⟨rfl, fun e effect => by cases effect; decide⟩
  have seeks : beacon.Seeks sweep.targeting.affinityWord none sweep.targeting.affectedFilter :=
    ⟨rfl, rfl, rfl, rfl, rfl⟩
  have seeks' : beacon.Seeks barrage.targeting.affinityWord barrage.targeting.location
      barrage.targeting.affectedFilter := ⟨rfl, rfl, rfl, rfl, rfl⟩
  obtain ⟨offers, found, same⟩ := (preview_agrees_with_targeting {} (skirmish beacon) sweep beacon
    (by decide)).1 [] field seeks
  obtain ⟨sides, offers', offered, found', same'⟩ := (preview_agrees_with_targeting {}
    (skirmish beacon) barrage beacon (by decide)).2 lanes rfl (by decide) rfl seeks'
  refine ⟨⟨field, seeks, offers, found, same, same ▸ rfl⟩, lanes, rfl, rfl, seeks', sides, offers',
    offered, found', same', ?_⟩
  obtain rfl : [.ofLane "lane2" "player1", .ofLane "lane2" "player2"] = sides :=
    Except.ok.inj offered
  rfl

end DroneTactics
