import DroneTactics.Proofs.Targeting.Companion
import Mathlib.Data.List.Basic
import Mathlib.Tactic.Tauto

/-!
Demands hold together. What a target must meet is decided by the target alone, so a rule with
many demands screens one list of candidates with each of them, and neither their order nor the
place in which they are written matters. Two lists of demands in one rule leave what each of them
leaves, and more demands never leave more.
-/

namespace DroneTactics

/-! ### Demands as they are written -/

/-- The two places of a rule in which demands are written: restrictions of every shape, and tags
under their older name. -/
structure Wording where
  restrictions : List Restriction := []
  custom : List String := []

def Wording.demands (w : Wording) : List Restriction := w.restrictions ++ w.custom.map .tag

def Targeting.worded (rule : Targeting) (w : Wording) : Targeting :=
  { rule with restrictions := w.restrictions, custom := w.custom }

@[simp] theorem Targeting.demands_worded (rule : Targeting) (w : Wording) :
    (rule.worded w).demands = w.demands := rfl

def Definition.worded (d : Definition) (w : Wording) : Definition :=
  d.withTargeting (d.targeting.worded w)

@[simp] theorem Definition.isUpgrade_worded (d : Definition) (w : Wording) :
    (d.worded w).isUpgrade = d.isUpgrade :=
  Definition.isUpgrade_withTargeting

@[simp] theorem Definition.targeting_worded (d : Definition) (w : Wording) :
    (d.worded w).targeting = d.targeting.worded w :=
  Definition.targeting_withTargeting

def SecondaryTargeting.demanding (rule : SecondaryTargeting) (demands : List Restriction) :
    SecondaryTargeting :=
  { rule with restrictions := demands }

/-- A question that makes demands is answered by what meets all of them. It has an answer. If one
question makes the demands of two others, its answer is that of the first without what is not in
that of the second; questions that make the same demands have the same answer, and one that makes
more has no other targets and no other order. -/
structure Conjoins {σ : Type} (demands : σ → List Restriction)
    (answer : σ → Except Fault (List Target)) : Prop where
  answers : ∀ x, ∃ found, answer x = .ok found
  both : ∀ x y z, (∀ demand, demand ∈ demands z ↔ demand ∈ demands x ∨ demand ∈ demands y) →
    ∀ found found', answer x = .ok found → answer y = .ok found' →
      answer z = .ok (found.filter (· ∈ found'))
  same : ∀ x y, (∀ demand, demand ∈ demands x ↔ demand ∈ demands y) → answer x = answer y
  fewer : ∀ x y, demands x ⊆ demands y → ∀ found found', answer x = .ok found →
    answer y = .ok found' → found'.Sublist found

/-- Screening candidates with each demand conjoins the demands. -/
theorem Conjoins.of_screened {σ : Type} {demands : σ → List Restriction}
    {answer : σ → Except Fault (List Target)} (candidates : List Target)
    (meets : Target → Restriction → Bool)
    (screened : ∀ x, answer x = .ok (candidates.filter fun t => (demands x).all (meets t))) :
    Conjoins demands answer where
  answers x := ⟨_, screened x⟩
  both x y z union found found' first second := by
    obtain rfl := Except.ok.inj (first.symm.trans (screened x))
    obtain rfl := Except.ok.inj (second.symm.trans (screened y))
    rw [screened z, List.filter_filter]
    refine congrArg Except.ok (List.filter_congr fun t candidate => ?_)
    rw [Bool.eq_iff_iff]
    simp only [List.all_eq_true, union, Bool.and_eq_true, decide_eq_true_eq, List.mem_filter,
      candidate, true_and]
    exact ⟨fun all => ⟨fun demand mem => all demand (.inr mem), fun demand mem =>
      all demand (.inl mem)⟩, fun ⟨right, left⟩ demand => Or.rec (left demand) (right demand)⟩
  same x y alike := by
    rw [screened x, screened y]
    refine congrArg Except.ok (List.filter_congr fun t _ => ?_)
    rw [Bool.eq_iff_iff]
    simp only [List.all_eq_true, alike]
  fewer x y more found found' first second := by
    obtain rfl := Except.ok.inj (first.symm.trans (screened x))
    obtain rfl := Except.ok.inj (second.symm.trans (screened y))
    refine List.monotone_filter_right candidates fun t passes => ?_
    simp only [List.all_eq_true] at passes ⊢
    exact fun demand mem => passes demand (more mem)

namespace Situation

variable {s : Situation}

/-- Whether a target on the boards meets a demand: a drone beside an earlier choice, if there is
one, a section by itself, and a side of a lane by its control and its drones. -/
def targetMeets (s : Situation) (reference : Option Reference) (t : Target)
    (demand : Restriction) : Bool :=
  match t.entity, t.lane with
  | some (.drone d), some lane => s.droneMeets d lane t.owner reference demand
  | some (.shipSection sec), _ => sec.meets demand
  | none, some lane => s.laneMeets lane t.owner s.field.control demand
  | _, _ => false

/-- A search that goes through some seats and tests things for demands screens what it finds
without demands, if what a thing meets can be read off the target that is made of it. -/
theorem screened_of_search {σ ε α : Type} {demands : σ → List Restriction}
    {found : σ → List Target} {seats : List ε} {things : ε → List α} {free : ε → α → Bool}
    {holds : ε → α → Restriction → Bool} {make : ε → α → Target}
    {meets : Target → Restriction → Bool} {blank : σ} (unasked : demands blank = [])
    (read : ∀ e a, meets (make e a) = holds e a)
    (search : ∀ x, found x = seats.flatMap fun e =>
      ((things e).filter fun a => free e a && (demands x).all (holds e a)).map (make e))
    (x : σ) : found x = (found blank).filter fun t => (demands x).all (meets t) := by
  rw [search x, search blank, unasked, List.filter_flatMap]
  congr 1
  funext e
  rw [List.filter_map, List.filter_filter]
  simp [read, Bool.and_comm]

theorem droneTargets_worded (s : Situation) (rule : Targeting) (w : Wording) :
    s.droneTargets (rule.worded w) = (s.droneTargets (rule.worded {})).filter fun t =>
      w.demands.all (s.targetMeets none t) := by
  have read : ∀ (e : (PlayerId × Board) × LaneId) d, s.targetMeets none (.ofDrone d e.1.1 e.2) =
      s.droneMeets d e.2 e.1.1 none := fun _ _ => rfl
  have search : ∀ w : Wording, s.droneTargets (rule.worded w) =
      ((s.boards rule.affinityWord).flatMap fun e =>
          (s.scope rule.location).map fun lane => (e, lane)).flatMap fun e =>
        ((e.1.2.dronesIn e.2).filter fun d =>
          true && w.demands.all (s.droneMeets d e.2 e.1.1 none)).map
            (Target.ofDrone · e.1.1 e.2) := by
    intro w
    simp only [droneTargets_eq_muster, muster, List.map_flatMap, List.map_map, List.flatMap_assoc,
      List.flatMap_map]
    rfl
  exact screened_of_search rfl read search w

theorem laneTargets_worded (s : Situation) (rule : Targeting) (w : Wording) :
    s.laneTargets (rule.worded w) = (s.laneTargets (rule.worded {})).filter fun t =>
      w.demands.all (s.targetMeets none t) := by
  have read : ∀ (e : PlayerId × Board) lane, s.targetMeets none (.ofLane lane e.1) =
      s.laneMeets lane e.1 s.field.control := fun _ _ => rfl
  have search : ∀ w : Wording, s.laneTargets (rule.worded w) =
      (s.boards rule.affinityWord).flatMap fun e =>
        ((s.scope rule.location).filter fun lane =>
          true && w.demands.all (s.laneMeets lane e.1 s.field.control)).map (Target.ofLane · e.1) :=
    fun _ => rfl
  exact screened_of_search rfl read search w

theorem sectionTargets_worded (s : Situation) (rule : Targeting) (w : Wording) :
    s.sectionTargets (rule.worded w) = (s.sectionTargets (rule.worded {})).filter fun t =>
      w.demands.all (s.targetMeets none t) := by
  have read : ∀ (e : PlayerId × Board) sec, s.targetMeets none (.ofSection sec e.1) =
      sec.meets := fun _ _ => rfl
  have search : ∀ w : Wording, s.sectionTargets (rule.worded w) =
      (s.boards rule.affinityWord).flatMap fun e =>
        (e.2.sections.filter fun sec =>
          (!sec.destroyed && s.reaches rule.location sec.lane && !s.shielded sec e.1)
            && w.demands.all sec.meets).map (Target.ofSection · e.1) := fun _ => rfl
  exact screened_of_search rfl read search w

/-- Second drones are screened in the same way, each beside the first choice. -/
theorem secondaryDrones_demanding (s : Situation) (primary : PrimaryChoice)
    (rule : SecondaryTargeting) (demands : List Restriction) :
    s.secondaryDrones primary (rule.demanding demands) =
      (s.secondaryDrones primary (rule.demanding [])).filter fun t =>
        demands.all (s.targetMeets (primary.lane.bind primary.reference?) t) := by
  have reach : ∀ demands, (rule.demanding demands).reach? = rule.reach? := fun _ => rfl
  simp only [secondaryDrones, reach]
  split
  case h_2 => rfl
  case h_1 lane _ there =>
      have read : ∀ (e : PlayerId × Board) d,
          s.targetMeets (primary.lane.bind primary.reference?) (.ofDrone d e.1 lane) =
            s.droneMeets d lane e.1 (primary.reference? lane) := by
        intro e d
        rw [there]
        rfl
      have unasked : id ([] : List Restriction) = [] := rfl
      exact screened_of_search unasked read (fun _ => rfl) demands

end Situation

/-- Whatever a definition about things on the boards demands, it screens the same candidates. -/
theorem Referee.exists_candidates {d : Definition} {aim : Aim} (r : Referee) (s : Situation)
    (plain : d.isUpgrade = false) (aims : d.targeting.aim? = some aim) (board : aim.OnBoard) :
    ∃ candidates : List Target, ∀ w, r.targets (s.playedAs (d.worded w)) =
      .ok (candidates.filter fun t => w.demands.all (s.targetMeets none t)) := by
  have plain' : ∀ w, (d.worded w).isUpgrade = false := by simp [plain]
  have aims' : ∀ w, (d.worded w).targeting.aim? = some aim := by
    intro w
    rw [Definition.targeting_worded]
    exact aims
  by_cases inPlay : aim ∈ r.aims
  · have found : ∀ w, r.targets (s.playedAs (d.worded w)) =
        (s.playedAs (d.worded w)).targetsFor r.rules (d.targeting.worded w) aim := by
      intro w
      rw [targets_eq_targetsFor (plain' w) (aims' w) inPlay, Definition.targeting_worded]
    rcases board with rfl | rfl | rfl
    · exact ⟨s.droneTargets (d.targeting.worded {}), fun w =>
        (found w).trans (congrArg Except.ok (s.droneTargets_worded d.targeting w))⟩
    · exact ⟨s.laneTargets (d.targeting.worded {}), fun w =>
        (found w).trans (congrArg Except.ok (s.laneTargets_worded d.targeting w))⟩
    · exact ⟨s.sectionTargets (d.targeting.worded {}), fun w =>
        (found w).trans (congrArg Except.ok (s.sectionTargets_worded d.targeting w))⟩
  · refine ⟨[], fun w => ?_⟩
    have played : (s.playedAs (d.worded w)).definition = d.worded w := rfl
    rw [targets, played, if_neg (by simp [plain' w]), ruleTargets, aims' w]
    exact if_neg inPlay

/-- The demands of a rule about things on the boards hold together, wherever they are written, and
so do those of a rule for second drones. -/
theorem demands_hold_together (r : Referee) (s : Situation) :
    (∀ (d : Definition) (aim : Aim), d.isUpgrade = false → d.targeting.aim? = some aim →
      aim.OnBoard → Conjoins Wording.demands fun w => r.targets (s.playedAs (d.worded w))) ∧
    (∀ (primary : PrimaryChoice) (rule : SecondaryTargeting), rule.aim? = some .drone →
      Conjoins id fun demands => .ok (s.secondaryTargets primary (rule.demanding demands))) := by
  refine ⟨fun d aim plain aims board => ?_, fun primary rule aims => ?_⟩
  · obtain ⟨candidates, screened⟩ := r.exists_candidates s plain aims board
    exact .of_screened candidates _ screened
  · refine .of_screened (s.secondaryDrones primary (rule.demanding []))
      (s.targetMeets (primary.lane.bind primary.reference?)) fun demands => ?_
    have aims' : (rule.demanding demands).aim? = some .drone := aims
    rw [Situation.secondaryTargets, aims']
    exact congrArg Except.ok (s.secondaryDrones_demanding primary rule demands)

/-- Of the drones in the middle lane that hit hard, those that are exhausted are left, whether this
is demanded once or twice, before or after; and of the drones beside the raider that still have
hull, those that hit less hard than it. -/
theorem skirmish_demands_hold_together :
    let s := skirmish middleBeacon
    let hard : Restriction := .limit { stat := "attack", comparison := "GTE", value := 3 }
    let primary : PrimaryChoice := ⟨.ofDrone raider "player2" "lane2", some "lane2", "player2"⟩
    let weak : Restriction :=
      .relation { stat := some "attack", comparison := some "LT", referenceStat := some "attack" }
    let whole : Restriction := .limit { stat := "hull", comparison := "GTE", value := 1 }
    let offered := fun w => Referee.targets {} (s.playedAs (middleBeacon.worded w))
    let second := fun demands => s.secondaryTargets primary (weaker.demanding demands)
    middleBeacon.isUpgrade = false ∧ middleBeacon.targeting.aim? = some .drone ∧
      Aim.drone.OnBoard ∧ weaker.aim? = some .drone ∧
      offered ⟨[hard, .tag "EXHAUSTED"], []⟩ =
        .ok ([.ofDrone raider "player2" "lane2", .ofDrone bomber "player2" "lane2"].filter
          (· ∈ [Target.ofDrone bomber "player2" "lane2"])) ∧
      offered ⟨[.tag "EXHAUSTED", hard], ["EXHAUSTED"]⟩ =
        offered ⟨[hard, .tag "EXHAUSTED"], []⟩ ∧
      (second [whole, weak]).Sublist (second [whole]) ∧
      second [whole, weak] = [.ofDrone wreck "player1" "lane2"] := by
  intro s hard primary weak whole offered second
  obtain ⟨targets, seconds⟩ := demands_hold_together {} s
  have rule := targets middleBeacon .drone rfl rfl (.inl rfl)
  have pair := seconds primary weaker rfl
  refine ⟨rfl, rfl, .inl rfl, rfl, ?_, ?_, ?_, rfl⟩
  · refine rule.both ⟨[hard], []⟩ ⟨[.tag "EXHAUSTED"], []⟩ _ (fun demand => ?_) _ _ rfl rfl
    simp [Wording.demands]
  · refine rule.same _ _ fun demand => ?_
    simp only [Wording.demands, List.mem_append, List.mem_cons, List.map_cons, List.map_nil]
    tauto
  · exact pair.fewer [whole] [whole, weak] (by simp) _ _ rfl rfl

end DroneTactics
