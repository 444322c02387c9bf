import DroneTactics.Definition.Validation
import DroneTactics.Proofs.Targeting.Mobility
import DroneTactics.Proofs.Targeting.Scope
import Mathlib.Data.List.ReduceOption

/-!
Words that mean nothing refuse everything. The engine and the check of a set of definitions
read the words of a targeting rule independently of each other. A target on a board is only
ever offered if all words that bear on it are known, and so a doubt about one of them means
that nothing is offered, whatever is on the boards and wherever the word stands in the rule.
-/

namespace DroneTactics

def Aim.tags : Aim → List String
  | .drone =>
    ["MARKED", "NOT_MARKED", "EXHAUSTED", "NOT_EXHAUSTED", "SNARED", "NOT_SNARED",
      "DAMAGED_HULL"]
  | .lane => ["CONTROLLED", "ENEMY_CONTROLLED", "UNCONTROLLED", "HAS_DRONES", "NO_DRONES"]
  | .shipSection => ["DAMAGED_HULL"]
  | _ => []

/-- A word of a rule is unknown: that of its aim or, if the rule is about things on the
boards, one that says whose they are, where they are or what is demanded of them. -/
inductive Targeting.Unknown (rule : Targeting) (lanes : List LaneId) : Prop
  | type (unknown : rule.aim? = none)
  | affinity {aim : Aim} (aims : rule.aim? = some aim) (board : aim.OnBoard)
      (unknown : Affinity.ofName? rule.affinityWord = none)
  | location {aim : Aim} {word : String} (aims : rule.aim? = some aim) (board : aim.OnBoard)
      (written : rule.location = some word) (unknown : Reach.ofName? word = none)
      (absent : word ∉ lanes)
  | tag {aim : Aim} {word : String} (aims : rule.aim? = some aim) (board : aim.OnBoard)
      (written : .tag word ∈ rule.restrictions ∨ word ∈ rule.custom)
      (unknown : word ∉ aim.tags)
  | comparison {aim : Aim} {l : StatLimit} (aims : rule.aim? = some aim) (board : aim.OnBoard)
      (written : .limit l ∈ rule.restrictions)
      (unknown : Comparison.ofName? l.comparison = none)

/-- A doubt about a word that bears on the targets of a rule: any about the aim and, if the
rule is about things on the boards, those about whose they are, about where they are and about
the comparison of a limit. -/
inductive Doubt.Closes (rule : Targeting) : Doubt → Prop
  | targetingType {word : String} : Closes rule (.targetingType word)
  | affinity {aim : Aim} {word : String} (aims : rule.aim? = some aim) (board : aim.OnBoard) :
      Closes rule (.affinity word)
  | location {aim : Aim} {word : String} (aims : rule.aim? = some aim) (board : aim.OnBoard) :
      Closes rule (.location word)
  | comparison {aim : Aim} {l : StatLimit} (aims : rule.aim? = some aim) (board : aim.OnBoard)
      (written : .limit l ∈ rule.restrictions) : Closes rule (.comparison l.comparison)

/-! ### What is doubted is unknown -/

theorem comparison_of_mem_comparisonDoubts {restrictions : List Restriction} {doubt : Doubt}
    (mem : doubt ∈ comparisonDoubts restrictions) :
    ∃ word, Comparison.ofName? word = none ∧ doubt = .comparison word := by
  obtain ⟨word, -, doubted⟩ := List.mem_filterMap.1 mem
  obtain ⟨unknown, same⟩ := Option.ite_none_right_eq_some.1 doubted
  exact ⟨word, Option.isNone_iff_eq_none.1 unknown, (Option.some.inj same).symm⟩

namespace Targeting

variable {rule : Targeting} {lanes : List LaneId} {doubt : Doubt}

/-- The doubts about a rule, one kind after the other. -/
theorem mem_doubts_iff : doubt ∈ rule.doubts lanes ↔
    (rule.aim? = none ∧ doubt = .targetingType rule.type) ∨
    (Affinity.ofName? rule.affinityWord = none ∧ doubt = .affinity rule.affinityWord) ∨
    (∃ word, rule.location = some word ∧ Reach.ofName? word = none ∧ word ∉ lanes ∧
      doubt = .location word) ∨
    doubt ∈ comparisonDoubts rule.demands ∨ doubt ∈ comparisonDoubts rule.affectedFilter := by
  cases written : rule.location with
  | none => simp [doubts, written]
  | some word => simp [doubts, written, and_assoc]

/-- What a doubt about a rule says of it. -/
theorem of_mem_doubts (mem : doubt ∈ rule.doubts lanes) :
    match doubt with
    | .targetingType _ => rule.aim? = none
    | .affinity _ => Affinity.ofName? rule.affinityWord = none
    | .location word =>
      rule.location = some word ∧ Reach.ofName? word = none ∧ word ∉ lanes
    | .comparison word => Comparison.ofName? word = none
    | _ => False := by
  rcases mem_doubts_iff.1 mem with ⟨unknown, rfl⟩ | ⟨unknown, rfl⟩ |
    ⟨word, written, unknown, absent, rfl⟩ | doubted | doubted
  · exact unknown
  · exact unknown
  · exact ⟨written, unknown, absent⟩
  · obtain ⟨word, unknown, rfl⟩ := comparison_of_mem_comparisonDoubts doubted
    exact unknown
  · obtain ⟨word, unknown, rfl⟩ := comparison_of_mem_comparisonDoubts doubted
    exact unknown

/-- A doubt that bears on the targets of a rule is about an unknown word. -/
theorem unknown_of_mem_doubts (mem : doubt ∈ rule.doubts lanes) (closes : doubt.Closes rule) :
    rule.Unknown lanes := by
  have stated := of_mem_doubts mem
  cases closes with
  | targetingType => exact .type stated
  | affinity aims board => exact .affinity aims board stated
  | location aims board =>
      obtain ⟨written, unknown, absent⟩ := stated
      exact .location aims board written unknown absent
  | comparison aims board written => exact .comparison aims board written stated

end Targeting

/-! ### What is offered is known -/

def Restriction.Known (aim : Aim) : Restriction → Prop
  | .tag word => word ∈ aim.tags
  | .limit l => Comparison.ofName? l.comparison ≠ none
  | .relation _ => True

structure Targeting.Known (rule : Targeting) (aim : Aim) (lanes : List LaneId) : Prop where
  affinity : Affinity.ofName? rule.affinityWord ≠ none
  location : ∀ word, rule.location = some word → Reach.ofName? word = none → word ∈ lanes
  demands : ∀ demand ∈ rule.demands, demand.Known aim

/-- If the aim is known, the unknown word is one that only matters on the boards. -/
theorem Targeting.Unknown.onBoard {rule : Targeting} {lanes : List LaneId} {aim : Aim}
    (unknown : rule.Unknown lanes) (aims : rule.aim? = some aim) : aim.OnBoard := by
  cases unknown with
  | type none => rw [none] at aims; cases aims
  | affinity aims' board => exact Option.some.inj (aims'.symm.trans aims) ▸ board
  | location aims' board => exact Option.some.inj (aims'.symm.trans aims) ▸ board
  | tag aims' board => exact Option.some.inj (aims'.symm.trans aims) ▸ board
  | comparison aims' board => exact Option.some.inj (aims'.symm.trans aims) ▸ board

theorem Targeting.Unknown.not_known {rule : Targeting} {lanes : List LaneId} {aim : Aim}
    (unknown : rule.Unknown lanes) (aims : rule.aim? = some aim) : ¬rule.Known aim lanes := by
  intro known
  cases unknown with
  | type none => rw [none] at aims; cases aims
  | affinity _ _ none => exact known.affinity none
  | location _ _ written none absent => exact absent (known.location _ written none)
  | @tag aim' word aims' _ written none =>
      obtain rfl : aim' = aim := Option.some.inj (aims'.symm.trans aims)
      have demand : .tag word ∈ rule.demands := by simpa [demands] using written
      exact none (known.demands _ demand)
  | comparison _ _ written none =>
      exact known.demands _ (List.mem_append_left _ written) none

section

variable {d : Drone} {sec : ShipSection} {word : String} {demand : Restriction}

theorem Drone.mem_tags_of_hasTag (has : d.hasTag word = true) : word ∈ Aim.drone.tags := by
  unfold hasTag at has
  split at has <;> simp [Aim.tags] at has ⊢

theorem ShipSection.known_of_meets (meets : sec.meets demand = true) :
    demand.Known .shipSection := by
  cases demand with
  | tag word =>
      simp only [ShipSection.meets] at meets
      unfold hasTag at meets
      split at meets <;> simp [Restriction.Known, Aim.tags] at meets ⊢
  | limit l => cases meets
  | relation r => trivial

end

namespace Situation

variable {s : Situation} {rule : Targeting} {t : Target} {owner : PlayerId} {board : Board}
  {lane : LaneId} {demand : Restriction}

theorem known_of_droneMeets {d : Drone} {reference : Option Reference}
    (meets : s.droneMeets d lane owner reference demand = true) : demand.Known .drone := by
  cases demand with
  | tag word => exact d.mem_tags_of_hasTag meets
  | relation r => trivial
  | limit l =>
      intro unknown
      simp only [droneMeets, keepsLimit, StatValue.compareByName, unknown] at meets
      split at meets <;> cases meets

theorem known_of_laneMeets {control : LaneControl}
    (meets : s.laneMeets lane owner control demand = true) : demand.Known .lane := by
  cases demand with
  | tag word =>
      simp only [laneMeets] at meets
      unfold laneHasTag at meets
      split at meets <;> simp [Restriction.Known, Aim.tags] at meets ⊢
  | limit l => cases meets
  | relation r => trivial

theorem affinity_of_mem_boards {word : String} (mem : (owner, board) ∈ s.boards word) :
    Affinity.ofName? word ≠ none := by
  intro unknown
  have nobody : s.players word = [] := by simp [players, unknown]
  simp [boards, nobody] at mem

theorem location_of_mem_scope {location : Option String} (mem : lane ∈ s.scope location) :
    ∀ word, location = some word → Reach.ofName? word = none → word ∈ s.field.lanes := by
  rintro word rfl unknown
  simp only [scope, unknown] at mem
  obtain ⟨named, known⟩ := mem_onlyKnown_iff.1 mem
  exact Option.some.inj named ▸ known

theorem location_of_reaches {location : Option String} {lane : Option LaneId}
    (reached : s.reaches location lane = true) :
    ∀ word, location = some word → Reach.ofName? word = none → word ∈ s.field.lanes := by
  rintro word rfl unknown
  simp only [reaches, Option.map_some, unknown] at reached
  obtain ⟨l, -, within⟩ := (Option.any_eq_true _ _).1 reached
  exact location_of_mem_scope (by simpa using within) word rfl unknown

theorem known_of_mem_droneTargets (mem : t ∈ s.droneTargets rule) :
    rule.Known .drone s.field.lanes := by
  obtain ⟨⟨owner, board⟩, owned, inside⟩ := List.mem_flatMap.1 mem
  obtain ⟨⟨lane, d⟩, along, passes⟩ := List.mem_filterMap.1 inside
  obtain ⟨passes, -⟩ := Option.ite_none_right_eq_some.1 passes
  have within := (Board.mem_dronesAlong_iff.1 along).1
  exact
    { affinity := affinity_of_mem_boards owned
      location := location_of_mem_scope within
      demands := fun demand written => known_of_droneMeets (List.all_eq_true.1 passes _ written) }

theorem known_of_mem_laneTargets (mem : t ∈ s.laneTargets rule) :
    rule.Known .lane s.field.lanes := by
  obtain ⟨⟨owner, board⟩, owned, inside⟩ := List.mem_flatMap.1 mem
  obtain ⟨lane, picked, -⟩ := List.mem_map.1 inside
  obtain ⟨within, meets⟩ := List.mem_filter.1 picked
  exact
    { affinity := affinity_of_mem_boards owned
      location := location_of_mem_scope within
      demands := fun demand written => known_of_laneMeets (List.all_eq_true.1 meets _ written) }

theorem known_of_mem_sectionTargets (mem : t ∈ s.sectionTargets rule) :
    rule.Known .shipSection s.field.lanes := by
  obtain ⟨⟨owner, board⟩, owned, inside⟩ := List.mem_flatMap.1 mem
  obtain ⟨sec, picked, -⟩ := List.mem_map.1 inside
  have passes := (List.mem_filter.1 picked).2
  simp only [Bool.and_eq_true] at passes
  obtain ⟨⟨⟨-, reached⟩, -⟩, meets⟩ := passes
  exact
    { affinity := affinity_of_mem_boards owned
      location := location_of_reaches reached
      demands := fun demand written =>
        sec.known_of_meets (List.all_eq_true.1 meets _ written) }

/-- An aim at things on the boards always has an answer, and what it offers is evidence that
every word is known. -/
theorem exists_targetsFor {rules : Rules} {aim : Aim} (board : aim.OnBoard) :
    ∃ offers, s.targetsFor rules rule aim = .ok offers ∧
      ∀ t ∈ offers, rule.Known aim s.field.lanes := by
  rcases board with rfl | rfl | rfl
  · exact ⟨_, rfl, fun _ mem => known_of_mem_droneTargets mem⟩
  · exact ⟨_, rfl, fun _ mem => known_of_mem_laneTargets mem⟩
  · exact ⟨_, rfl, fun _ mem => known_of_mem_sectionTargets mem⟩

end Situation

/-! ### The referee -/

namespace Referee

variable {r : Referee} {s : Situation}

/-- A rule with an unknown word has an answer, and it is that there are no targets. -/
theorem ruleTargets_of_unknown {rule : Targeting} (unknown : rule.Unknown s.field.lanes) :
    r.ruleTargets rule s = .ok [] := by
  unfold ruleTargets
  split
  case h_2 => rfl
  case h_1 aim aims =>
      split
      case isFalse => rfl
      case isTrue =>
          have board := unknown.onBoard aims
          obtain ⟨offers, found, known⟩ := Situation.exists_targetsFor (s := s) board
          have nothing : offers = [] :=
            List.eq_nil_iff_forall_not_mem.2 fun t mem => unknown.not_known aims (known t mem)
          rw [found, nothing]

/-- An unknown word in a rule about things on the boards leaves it without targets, and so
does each word that the check of the definition doubts, as far as it bears on them. -/
theorem targets_eq_nil_of_unknown (r : Referee) (s : Situation)
    (plain : s.definition.isUpgrade = false) :
    (s.definition.targeting.Unknown s.field.lanes → r.targets s = .ok []) ∧
    ∀ doubt ∈ s.definition.targeting.doubts s.field.lanes,
      doubt.Closes s.definition.targeting → r.targets s = .ok [] := by
  have closed : s.definition.targeting.Unknown s.field.lanes → r.targets s = .ok [] := by
    intro unknown
    rw [targets, plain]
    exact ruleTargets_of_unknown unknown
  refine ⟨closed, fun doubt doubted closes => closed ?_⟩
  exact Targeting.unknown_of_mem_doubts doubted closes

def withdrawalFrom (lane : LaneId) : Definition :=
  .card { withdrawal with targeting := { type := "DRONE", location := some lane } }

/-- In the middle lane of a skirmish there are drones to hit; a lane that is not there is
doubted and nothing is hit. -/
theorem skirmish_nowhere :
    (withdrawalFrom "lane4").isUpgrade = false ∧
    Doubt.location "lane4" ∈ (withdrawalFrom "lane4").targeting.doubts
      (skirmish (withdrawalFrom "lane4")).field.lanes ∧
    (Doubt.location "lane4").Closes (withdrawalFrom "lane4").targeting ∧
    (skirmish (withdrawalFrom "lane4")).targets = .ok [] ∧
    (skirmish (withdrawalFrom "lane2")).targets = .ok [.ofDrone wreck "player1" "lane2",
      .ofDrone raider "player2" "lane2", .ofDrone bomber "player2" "lane2"] := by
  have doubted : Doubt.location "lane4" ∈ (withdrawalFrom "lane4").targeting.doubts
      (skirmish (withdrawalFrom "lane4")).field.lanes := by decide
  have closes : (Doubt.location "lane4").Closes (withdrawalFrom "lane4").targeting :=
    .location rfl (.inl rfl)
  refine ⟨rfl, doubted, closes, ?_, rfl⟩
  exact (targets_eq_nil_of_unknown {} (skirmish (withdrawalFrom "lane4")) rfl).2 _ doubted closes

end Referee

end DroneTactics
