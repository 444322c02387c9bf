import DroneTactics.Proofs.Targeting.Offer

/-!
The drones that a search finds, station by station. A rule for drones, the preview of what a
definition hits and a second choice all go through the boards in one way: the boards of an
affinity, on each of them some lanes, and in each lane the drones that meet some demands. They
differ in what they make of the stations found in this way.
-/

namespace DroneTactics

def Station.target (st : Station) : Target := .ofDrone st.drone st.owner st.lane

@[simp] theorem Station.id_target (st : Station) : st.target.id = st.drone.id := rfl

@[simp] theorem Station.owner_target (st : Station) : st.target.owner = st.owner := rfl

@[simp] theorem Station.lane_target (st : Station) : st.target.lane = some st.lane := rfl

/-- What is made of the drones in some lanes that pass a test is made of them lane by lane. -/
theorem Board.filterMap_dronesAlong {α : Type} (b : Board) (lanes : List LaneId)
    (test : LaneId → Drone → Bool) (make : LaneId → Drone → α) :
    ((b.dronesAlong lanes).filterMap fun (lane, d) =>
        if test lane d then some (make lane d) else none) =
      lanes.flatMap fun lane => ((b.dronesIn lane).filter (test lane)).map (make lane) := by
  induction lanes with
  | nil => rfl
  | cons lane lanes ih =>
      have here : ((b.dronesIn lane).map (lane, ·)).filterMap (fun (lane, d) =>
            if test lane d then some (make lane d) else none) =
          ((b.dronesIn lane).filter (test lane)).map (make lane) := by
        rw [List.filterMap_map, ← List.filterMap_eq_map, List.filterMap_filter]
        rfl
      rw [List.flatMap_cons, ← ih, ← here, ← List.filterMap_append]
      rfl

/-- A definition is for the drones of an affinity, in the lanes of a location, that meet some
demands. -/
structure Definition.Seeks (d : Definition) (word : String) (location : Option String)
    (demands : List Restriction) : Prop where
  plain : d.isUpgrade = false
  aims : d.targeting.aim? = some .drone
  affinity : d.targeting.affinityWord = word
  location : d.targeting.location = location
  demands : d.targeting.demands = demands

namespace Definition

def withTargeting (d : Definition) (rule : Targeting) : Definition :=
  match d with
  | .card c => .card { c with targeting := rule }
  | .ability a => .ability { a with targeting := rule }

variable {d : Definition} {rule : Targeting}

@[simp] theorem targeting_withTargeting : (d.withTargeting rule).targeting = rule := by
  cases d <;> rfl

@[simp] theorem effect_withTargeting : (d.withTargeting rule).effect = d.effect := by
  cases d <;> rfl

@[simp] theorem isUpgrade_withTargeting : (d.withTargeting rule).isUpgrade = d.isUpgrade := by
  cases d <;> rfl

end Definition

namespace Situation

/-- The stations on the boards of an affinity, in some lanes, of the drones that meet some
demands. -/
def muster (s : Situation) (word : String) (lanes : List LaneId) (demands : List Restriction) :
    List Station :=
  (s.boards word).flatMap fun (owner, board) => lanes.flatMap fun lane =>
    ((board.dronesIn lane).filter fun d => s.dronePasses d lane owner demands none).map
      (⟨owner, lane, ·⟩)

theorem droneTargets_eq_muster (s : Situation) (rule : Targeting) :
    s.droneTargets rule =
      (s.muster rule.affinityWord (s.scope rule.location) rule.demands).map Station.target := by
  simp only [droneTargets, muster, List.map_flatMap, List.map_map]
  congr 1
  funext seat
  obtain ⟨owner, board⟩ := seat
  exact board.filterMap_dronesAlong _ (fun lane d => s.dronePasses d lane owner rule.demands none)
    (fun lane d => Target.ofDrone d owner lane)

end Situation

namespace Referee

variable {r : Referee} {s : Situation} {d : Definition}

/-- A definition that is not an upgrade has the targets of its aim, if the aim is in play. -/
theorem targets_eq_targetsFor {aim : Aim} (plain : d.isUpgrade = false)
    (aims : d.targeting.aim? = some aim) (inPlay : aim ∈ r.aims) :
    r.targets (s.playedAs d) = (s.playedAs d).targetsFor r.rules d.targeting aim := by
  have played : (s.playedAs d).definition = d := rfl
  simp [targets, played, plain, ruleTargets, aims, inPlay]

theorem targets_of_seeks {word : String} {location : Option String} {demands : List Restriction}
    (seeks : d.Seeks word location demands) (inPlay : Aim.drone ∈ r.aims) :
    r.targets (s.playedAs d) =
      .ok ((s.muster word (s.scope location) demands).map Station.target) := by
  rw [targets_eq_targetsFor seeks.plain seeks.aims inPlay, ← seeks.affinity, ← seeks.location,
    ← seeks.demands]
  exact congrArg Except.ok (s.droneTargets_eq_muster d.targeting)

end Referee

end DroneTactics
