import DroneTactics.Proofs.Selection.SingleMove
import DroneTactics.Proofs.Targeting.Eligible
import DroneTactics.Proofs.Targeting.Preview
import DroneTactics.Proofs.Targeting.SecondRule

/-!
Both sides at once. A rule that asks for the things of either side is answered with those of
the acting player's and then those of the opponent's, as if the sides had been asked for one
after the other: in the targets of a definition, in what pays for it, in second choices among
drones, in the preview of hits all over the field, and in the drones that a move begins with.
-/

namespace DroneTactics

/-! ### Rules that name a side -/

def Targeting.sided (rule : Targeting) (a : Affinity) : Targeting :=
  { rule with affinity := some a.name }

def Targeting.anywhere (rule : Targeting) : Targeting := { rule with location := none }

def Definition.sided (d : Definition) (a : Affinity) : Definition :=
  d.withTargeting (d.targeting.sided a)

@[simp] theorem Definition.targeting_sided (d : Definition) (a : Affinity) :
    (d.sided a).targeting = d.targeting.sided a :=
  Definition.targeting_withTargeting

@[simp] theorem Definition.isUpgrade_sided (d : Definition) (a : Affinity) :
    (d.sided a).isUpgrade = d.isUpgrade :=
  Definition.isUpgrade_withTargeting

def Card.costSided (card : Card) (a : Affinity) : Card :=
  { card with
    extraCost := card.extraCost.map fun cost =>
      { cost with targeting := cost.targeting.sided a } }

def SecondaryTargeting.sided (rule : SecondaryTargeting) (a : Affinity) : SecondaryTargeting :=
  { rule with affinity := a.name }

inductive Aim.TakesSides : Aim → Prop
  | drone : TakesSides .drone
  | lane : TakesSides .lane
  | shipSection : TakesSides .shipSection
  | upgrade : TakesSides .upgrade

/-- A question about an affinity is answered for both sides at once as it is for the acting
player's side and then for the opponent's. It has an answer for any affinity under a condition;
without an answer for one of the sides there is none for both. -/
structure InTurn {α : Type} (sure : Prop) (answer : Affinity → Except Fault (List α)) : Prop where
  answers : sure → ∀ a, ∃ found, answer a = .ok found
  split : answer .any = do
    let own ← answer .friendly
    let theirs ← answer .enemy
    pure (own ++ theirs)

namespace Situation

/-- The boards of both sides are the acting player's and then the opponent's. -/
theorem boards_any (s : Situation) :
    s.boards Affinity.any.name =
      s.boards Affinity.friendly.name ++ s.boards Affinity.enemy.name := by
  rw [boards_eq_filterMap, boards_eq_filterMap, boards_eq_filterMap]
  show ([0] ++ [1]).filterMap _ = _
  rw [List.filterMap_append]
  rfl

/-- What is searched for board by board is found on one side and then on the other. -/
theorem flatMap_boards_any {α : Type} (s : Situation) (search : PlayerId × Board → List α) :
    (s.boards Affinity.any.name).flatMap search =
      (s.boards Affinity.friendly.name).flatMap search ++
        (s.boards Affinity.enemy.name).flatMap search := by
  rw [boards_any, List.flatMap_append]

theorem exists_targetsFor_sided {aim : Aim} (s : Situation) (rules : Rules) (rule : Targeting)
    (takes : aim.TakesSides) : ∃ found : Affinity → List Target,
      (∀ a d, (s.playedAs d).targetsFor rules (rule.sided a) aim = .ok (found a)) ∧
        found .any = found .friendly ++ found .enemy := by
  -- The affinity selects the boards; what each aim does on a board does not depend on it.
  cases takes with
  | drone => exact ⟨fun a => s.droneTargets (rule.sided a), fun _ _ => rfl, s.flatMap_boards_any _⟩
  | lane => exact ⟨fun a => s.laneTargets (rule.sided a), fun _ _ => rfl, s.flatMap_boards_any _⟩
  | shipSection =>
      exact ⟨fun a => s.sectionTargets (rule.sided a), fun _ _ => rfl, s.flatMap_boards_any _⟩
  | upgrade =>
      exact ⟨fun a => s.upgradeTargets (rule.sided a), fun _ _ => rfl, s.flatMap_boards_any _⟩

theorem secondaryTargets_any {rule : SecondaryTargeting} (s : Situation) (primary : PrimaryChoice)
    (aims : rule.aim? = some .drone) :
    s.secondaryTargets primary (rule.sided .any) =
      s.secondaryTargets primary (rule.sided .friendly) ++
        s.secondaryTargets primary (rule.sided .enemy) := by
  have second : ∀ a, s.secondaryTargets primary (rule.sided a) =
      s.secondaryDrones primary (rule.sided a) := by
    intro a
    have aims' : (rule.sided a).aim? = some .drone := aims
    rw [secondaryTargets, aims']
  have reach : ∀ a, (rule.sided a).reach? = rule.reach? := fun _ => rfl
  rw [second, second, second, secondaryDrones, secondaryDrones, secondaryDrones, reach, reach,
    reach]
  split
  case h_1 lane _ _ => exact s.flatMap_boards_any _
  case h_2 => rfl

theorem affectedIds_any {d : Definition} (s : Situation) (sides : List Target)
    (aims : d.targeting.aim? = some .nothing) :
    s.affectedIds (d.sided .any) sides =
      s.affectedIds (d.sided .friendly) sides ++ s.affectedIds (d.sided .enemy) sides := by
  have hits : ∀ a, s.affectedIds (d.sided a) sides =
      if d.targeting.affectedFilter.isEmpty then []
      else (s.fieldHits (d.targeting.sided a)).map Drone.id := by
    intro a
    have aims' : (d.targeting.sided a).aim? = some .nothing := aims
    simp only [affectedIds, Definition.targeting_sided, aims']
    rfl
  rw [hits, hits, hits]
  split
  case isTrue => rfl
  case isFalse =>
      have found : s.fieldHits (d.targeting.sided .any) =
          s.fieldHits (d.targeting.sided .friendly) ++ s.fieldHits (d.targeting.sided .enemy) :=
        s.flatMap_boards_any _
      rw [found, List.map_append]

end Situation

/-! ### Answers and faults -/

namespace InTurn

variable {α : Type} {found : Affinity → List α} {answer : Affinity → Except Fault (List α)}

theorem of_found (answered : ∀ a, answer a = .ok (found a))
    (split : found .any = found .friendly ++ found .enemy) {sure : Prop} : InTurn sure answer where
  answers _ a := ⟨_, answered a⟩
  split := by
    rw [answered, answered, answered, split]
    rfl

/-- What is found after asking some drones is answered for one side after the other if both the
drones and the finds are. -/
theorem of_asked {rules : Rules} (asked : Affinity → List Drone) (found : Affinity → List α)
    (answered : ∀ a, answer a = rules.askToMove (asked a) >>= fun _ => pure (found a))
    (drones : asked .any = asked .friendly ++ asked .enemy)
    (split : found .any = found .friendly ++ found .enemy) :
    InTurn (rules.hasInertKeyword = true) answer where
  answers known a := by
    refine ⟨found a, ?_⟩
    rw [answered, rules.askToMove_of_known known]
    rfl
  split := by
    rw [answered, answered, answered, drones, split, Rules.askToMove_append]
    -- If a drone of the first side is not to be asked, the second side is not looked at.
    cases rules.askToMove (asked .friendly) with
    | error fault => rfl
    | ok _ =>
        cases rules.askToMove (asked .enemy) with
        | error fault => rfl
        | ok _ => rfl

theorem weaken {sure surer : Prop} (turns : InTurn sure answer) (implies : surer → sure) :
    InTurn surer answer :=
  ⟨fun holds => turns.answers (implies holds), turns.split⟩

end InTurn

namespace Referee

variable {r : Referee} {s : Situation} {aim : Aim}

/-- A rule that takes sides is answered for each, whatever definition is in play, and has nothing
for either if its aim is not in play. -/
theorem exists_ruleTargets_sided (r : Referee) (s : Situation) {rule : Targeting}
    (aims : rule.aim? = some aim) (takes : aim.TakesSides) :
    ∃ found : Affinity → List Target,
      (∀ a d, r.ruleTargets (rule.sided a) (s.playedAs d) = .ok (found a)) ∧
        found .any = found .friendly ++ found .enemy := by
  have aims' : ∀ a, (rule.sided a).aim? = some aim := fun _ => aims
  by_cases inPlay : aim ∈ r.aims
  · obtain ⟨found, answered, split⟩ := s.exists_targetsFor_sided r.rules rule takes
    refine ⟨found, fun a d => ?_, split⟩
    simp only [ruleTargets, aims', if_pos inPlay, answered]
  · refine ⟨fun _ => [], fun a d => ?_, rfl⟩
    simp only [ruleTargets, aims', if_neg inPlay]
    rfl

theorem targets_inTurn {d : Definition} (r : Referee) (s : Situation) (plain : d.isUpgrade = false)
    (aims : d.targeting.aim? = some aim) (takes : aim.TakesSides) :
    InTurn True fun a => r.targets (s.playedAs (d.sided a)) := by
  obtain ⟨found, answered, split⟩ := r.exists_ruleTargets_sided s aims takes
  refine .of_found (fun a => ?_) split
  show (if (d.sided a).isUpgrade then _ else r.ruleTargets (d.sided a).targeting _) = _
  rw [Definition.isUpgrade_sided, plain, Definition.targeting_sided]
  exact answered a _

theorem costTargets_inTurn {card : Card} {cost : ExtraCost} (r : Referee) (s : Situation)
    (costs : card.extraCost = some cost) (aims : cost.targeting.aim? = some aim)
    (takes : aim.TakesSides) :
    InTurn (cost.isMovement = true → r.rules.hasInertKeyword = true) fun a =>
      r.costTargets (s.playedAs (.card (card.costSided a))) := by
  obtain ⟨found, answered, split⟩ := r.exists_ruleTargets_sided s aims takes
  have costs' : ∀ a, (s.playedAs (.card (card.costSided a))).definition.extraCost =
      some { cost with targeting := cost.targeting.sided a } := by
    intro a
    show card.extraCost.map _ = _
    rw [costs]
    rfl
  cases moves : cost.isMovement with
  | false =>
      refine .of_found (fun a => ?_) split
      have moves' : ({ cost with targeting := cost.targeting.sided a } : ExtraCost).isMovement =
        false := moves
      simp only [costTargets, costs', moves', answered]
      rfl
  | true =>
      refine InTurn.weaken (.of_asked (fun a => (found a).filterMap Target.drone?)
        (fun a => (found a).filter (r.canPayByMoving s)) (fun a => ?_) ?_ ?_)
        fun implies => implies rfl
      · have moves' : ({ cost with targeting := cost.targeting.sided a } : ExtraCost).isMovement =
          true := moves
        simp only [costTargets, costs', moves', answered]
        rfl
      · rw [split, List.filterMap_append]
      · rw [split, List.filter_append]

end Referee

/-- A single move asks the drones of all lanes and offers those that the rule targets there and
that are able to move. -/
theorem MoveFlow.beginSingle_sided (rules : Rules) (s : Situation) (d : Definition)
    (a : Affinity) : beginSingle rules (s.playedAs (d.sided a)) =
      rules.askToMove (s.dronesWithin (d.targeting.anywhere.sided a)) >>= fun _ =>
        pure (.drone ((s.droneTargets (d.targeting.anywhere.sided a)).filter
          (Referee.canPayByMoving { rules } s))) := by
  rw [Situation.filter_droneTargets]
  cases d <;> rfl

theorem MoveFlow.offers_beginSingle_inTurn (rules : Rules) (s : Situation) (d : Definition) :
    InTurn (rules.hasInertKeyword = true) fun a =>
      MovePhase.offers <$> beginSingle rules (s.playedAs (d.sided a)) := by
  have targets : s.droneTargets (d.targeting.anywhere.sided .any) =
      s.droneTargets (d.targeting.anywhere.sided .friendly) ++
        s.droneTargets (d.targeting.anywhere.sided .enemy) := s.flatMap_boards_any _
  refine .of_asked (fun a => s.dronesWithin (d.targeting.anywhere.sided a))
    (fun a => (s.droneTargets (d.targeting.anywhere.sided a)).filter
      (Referee.canPayByMoving { rules } s)) (fun a => ?_) (s.flatMap_boards_any _) ?_
  · rw [beginSingle_sided]
    cases rules.askToMove (s.dronesWithin (d.targeting.anywhere.sided a)) with
    | error fault => rfl
    | ok _ => rfl
  · rw [targets, List.filter_append]

/-- What is asked about the things of either side is answered with those of the acting player's
side and then those of the opponent's, wherever it is asked. -/
theorem both_sides_in_turn (r : Referee) (s : Situation) :
    (∀ (d : Definition) (aim : Aim), d.isUpgrade = false → d.targeting.aim? = some aim →
      aim.TakesSides → InTurn True fun a => r.targets (s.playedAs (d.sided a))) ∧
    (∀ (card : Card) (cost : ExtraCost) (aim : Aim), card.extraCost = some cost →
      cost.targeting.aim? = some aim → aim.TakesSides →
      InTurn (cost.isMovement = true → r.rules.hasInertKeyword = true) fun a =>
        r.costTargets (s.playedAs (.card (card.costSided a)))) ∧
    (∀ (primary : PrimaryChoice) (rule : SecondaryTargeting), rule.aim? = some .drone →
      s.secondaryTargets primary (rule.sided .any) =
        s.secondaryTargets primary (rule.sided .friendly) ++
          s.secondaryTargets primary (rule.sided .enemy)) ∧
    (∀ (d : Definition) (sides : List Target), d.targeting.aim? = some .nothing →
      s.affectedIds (d.sided .any) sides =
        s.affectedIds (d.sided .friendly) sides ++ s.affectedIds (d.sided .enemy) sides) ∧
    (∀ d : Definition, InTurn (r.rules.hasInertKeyword = true) fun a =>
      MovePhase.offers <$> MoveFlow.beginSingle r.rules (s.playedAs (d.sided a))) :=
  ⟨fun _ _ plain aims takes => r.targets_inTurn s plain aims takes,
    fun _ _ _ costs aims takes => r.costTargets_inTurn s costs aims takes,
    fun primary _ aims => s.secondaryTargets_any primary aims,
    fun _ sides aims => s.affectedIds_any sides aims,
    fun d => MoveFlow.offers_beginSingle_inTurn r.rules s d⟩

/-- In the skirmish the beacon, what pays for a withdrawal, a pursuit of the raider, the sweep and
a move take both sides in turn. -/
theorem skirmish_both_sides :
    let s := skirmish beacon
    let primary : PrimaryChoice := ⟨.ofDrone raider "player2" "lane2", some "lane2", "player2"⟩
    InTurn True (fun a => Referee.targets {} (s.playedAs (beacon.sided a))) ∧
      (∃ offers, Referee.costTargets {} (s.playedAs (.card (withdrawal.costSided .any))) =
        .ok offers ∧ offers.map Target.id = ["scout", "wreck", "raider"]) ∧
      s.secondaryTargets primary (SecondaryTargeting.pursuit.sided .any) =
        [.ofDrone wreck "player1" "lane2"] ++ [.ofDrone bomber "player2" "lane2"] ∧
      s.affectedIds (sweep.sided .any) [] = ["scout", "wreck"] ++ ["raider", "bomber"] ∧
      InTurn (Rules.hasInertKeyword {} = true) fun a =>
        MovePhase.offers <$> MoveFlow.beginSingle {} (s.playedAs (beacon.sided a)) := by
  intro s primary
  obtain ⟨targets, costs, seconds, hits, moves⟩ := both_sides_in_turn {} s
  refine ⟨targets beacon _ rfl rfl .drone, ?_, seconds primary .pursuit rfl, hits sweep [] rfl,
    moves beacon⟩
  have turns := costs withdrawal _ _ rfl rfl .drone
  obtain ⟨offers, found⟩ := turns.answers (fun _ => rfl) .any
  refine ⟨offers, found, ?_⟩
  obtain rfl : [Target.ofDrone scout "player1" "lane1", .ofDrone wreck "player1" "lane2",
      .ofDrone raider "player2" "lane2"] = offers := Except.ok.inj (found.symm.trans rfl).symm
  rfl

end DroneTactics
