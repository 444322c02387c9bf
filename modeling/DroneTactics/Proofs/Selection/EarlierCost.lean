import DroneTactics.Proofs.Selection.Run
import DroneTactics.Proofs.Targeting.Mobility
import DroneTactics.Selection.CardFlow

/-!
Costs of an earlier card. What has been paid before is on record in the situation in which a
card is clicked. Once the flow runs, the record is overwritten, so it can matter to the first
phase only, and there only to what pays the cost of the card: a rule for the cost that reaches
the lanes a cost names reaches those of the earlier one.
-/

namespace DroneTactics

def Situation.recalling (s : Situation) (earlier : Option Payment) : Situation :=
  { s with payment := earlier }

def Reach.recalled : Reach → Option Payment → Option LaneId
  | .costSourceLane, earlier => earlier.bind Payment.sourceLane
  | .costDestinationLane, earlier => earlier.bind Payment.destinationLane
  | _, _ => none

/-- A rule about things on the boards reaches a lane that costs name, and two costs do not name
the same one. -/
structure Targeting.TellsApart (rule : Targeting) (p q : Option Payment) : Prop where
  aims : ∃ aim, rule.aim? = some aim ∧ aim.OnBoard
  reaches : ∃ reach, rule.location.bind Reach.ofName? = some reach ∧
    reach.recalled p ≠ reach.recalled q

/-! ### Rules -/

namespace Situation

variable {s : Situation} {rule : Targeting} {p q : Option Payment}

theorem lanesOf_recalling {reach : Reach} (same : reach.recalled p = reach.recalled q) :
    (s.recalling p).lanesOf reach = (s.recalling q).lanesOf reach := by
  cases reach with
  | costSourceLane => exact congrArg s.onlyKnown same
  | costDestinationLane => exact congrArg s.onlyKnown same
  | _ => rfl

theorem scope_recalling {location : Option String}
    (same : ∀ reach, location.bind Reach.ofName? = some reach →
      reach.recalled p = reach.recalled q) :
    (s.recalling p).scope location = (s.recalling q).scope location := by
  cases location with
  | none => rfl
  | some word =>
      cases named : Reach.ofName? word with
      | none =>
          simp only [scope, named]
          rfl
      | some reach =>
          simp only [scope, named]
          exact lanesOf_recalling (same reach named)

/-- A rule for things on the boards looks at an earlier cost for its lanes only. -/
theorem targetsFor_recalling {rules : Rules} {aim : Aim}
    (same : ∀ reach, aim.OnBoard → rule.location.bind Reach.ofName? = some reach →
      reach.recalled p = reach.recalled q) :
    (s.recalling p).targetsFor rules rule aim = (s.recalling q).targetsFor rules rule aim := by
  have scope : aim.OnBoard →
      (s.recalling p).scope rule.location = (s.recalling q).scope rule.location :=
    fun board => scope_recalling fun reach => same reach board
  have reaches : aim.OnBoard →
      (s.recalling p).reaches rule.location = (s.recalling q).reaches rule.location := by
    intro board
    funext lane
    unfold Situation.reaches
    rw [scope board]
  cases aim with
  | drone =>
      simp only [targetsFor, droneTargets, scope (.inl rfl)]
      rfl
  | lane =>
      simp only [targetsFor, laneTargets, scope (.inr (.inl rfl))]
      rfl
  | shipSection =>
      simp only [targetsFor, sectionTargets, reaches (.inr (.inr rfl))]
      rfl
  | _ => rfl

end Situation

namespace Referee

variable {r : Referee} {s : Situation} {p q : Option Payment}

theorem ruleTargets_recalling {rule : Targeting} (same : ¬rule.TellsApart p q) :
    r.ruleTargets rule (s.recalling p) = r.ruleTargets rule (s.recalling q) := by
  unfold ruleTargets
  cases aims : rule.aim? with
  | none => rfl
  | some aim =>
      have blind : (s.recalling p).targetsFor r.rules rule aim =
          (s.recalling q).targetsFor r.rules rule aim := by
        refine Situation.targetsFor_recalling fun reach board named => ?_
        exact Classical.byContradiction fun other =>
          same ⟨⟨aim, aims, board⟩, ⟨reach, named, other⟩⟩
      simp only [blind]

theorem costTargets_recalling
    (same : ∀ cost, s.definition.extraCost = some cost → ¬cost.targeting.TellsApart p q) :
    r.costTargets (s.recalling p) = r.costTargets (s.recalling q) := by
  unfold costTargets
  cases costs : s.definition.extraCost with
  | none => simp only [Situation.recalling, costs]
  | some cost =>
      have ruled := ruleTargets_recalling (r := r) (s := s) (same cost costs)
      simp only [Situation.recalling, costs] at ruled ⊢
      rw [ruled]
      rfl

end Referee

/-! ### The flow -/

namespace CardFlow

variable {r : Referee} {s : Situation} {card : Card} {p q : Option Payment}

/-- The boards and the record after paying do not depend on what was on record before. -/
theorem afterPaying_recalling (payment : Option Payment) :
    (s.recalling p).afterPaying payment = s.afterPaying payment := by
  cases payment <;> rfl

theorem enterEffect_recalling (payment : Option Payment) :
    enterEffect r (s.recalling p) card payment = enterEffect r s card payment := by
  simp only [enterEffect, Referee.targetsAfter, afterPaying_recalling]

theorem chooseCost_recalling (target : Target) :
    chooseCost r (s.recalling p) card target = chooseCost r s card target := by
  simp only [chooseCost, enterEffect_recalling]
  rfl

theorem chooseEffect_recalling (payment : Option Payment) (target : Target) :
    chooseEffect (s.recalling p) card payment target = chooseEffect s card payment target := by
  simp only [chooseEffect, afterPaying_recalling]

/-- Once a flow runs, no event looks at what was on record before. -/
theorem advance_recalling (phase : CardPhase) (event : Event) :
    advance r (s.recalling p) phase event = advance r s phase event := by
  have chosen (target : Target) :
      choose r (s.recalling p) phase target = choose r s phase target := by
    cases phase with
    | cost card offers => exact chooseCost_recalling (s := s.playedAs (.card card)) target
    | costDestination card payment offers =>
        exact enterEffect_recalling (s := s.playedAs (.card card)) _
    | effect card payment offers =>
        exact congrArg Except.ok
          (chooseEffect_recalling (s := s.playedAs (.card card)) payment target)
    | _ => rfl
  simp only [advance, chosen]

theorem history_advance_recalling (phase : CardPhase) (turns : List Turn) :
    (advance r).history (s.recalling p) phase turns = (advance r).history s phase turns := by
  induction turns generalizing s phase with
  | nil => rfl
  | cons turn rest ih =>
      have here : (s.recalling p).atTurn turn = (s.atTurn turn).recalling p := rfl
      simp only [Transition.history, here, advance_recalling, ih]

/-- The first phase for a card with a cost offers what can pay it. -/
theorem offers_begin (costs : card.extraCost.isSome) :
    (begin r s card).map CardPhase.offers = r.costTargets (s.playedAs (.card card)) := by
  simp only [begin, if_pos costs]
  cases r.costTargets (s.playedAs (.card card)) with
  | error fault => rfl
  | ok offers => cases offers <;> rfl

theorem begin_recalling_iff : begin r (s.recalling p) card = begin r (s.recalling q) card ↔
    (card.extraCost.isSome → r.costTargets ((s.playedAs (.card card)).recalling p) =
      r.costTargets ((s.playedAs (.card card)).recalling q)) := by
  by_cases costs : card.extraCost.isSome = true
  · constructor
    · intro same _
      have offers := congrArg (Except.map CardPhase.offers) same
      rwa [offers_begin costs, offers_begin costs] at offers
    · intro same
      have paid : r.costTargets ((s.recalling p).playedAs (.card card)) =
          r.costTargets ((s.recalling q).playedAs (.card card)) := same costs
      simp only [begin, if_pos costs, paid]
  · have free (earlier : Option Payment) : begin r (s.recalling earlier) card = begin r s card := by
      have played : (s.recalling earlier).playedAs (.card card) =
          (s.playedAs (.card card)).recalling earlier := rfl
      simp only [begin, if_neg costs, played, enterEffect_recalling]
    exact iff_of_true ((free p).trans (free q).symm) fun paid => absurd paid costs

theorem head?_history (d : Definition) (turns : List Turn) :
    (history r s d turns).head? = some (beginFor r s d) := by
  unfold history
  cases beginFor r s d <;> rfl

/-- If the first phase is the same, all are. -/
theorem history_recalling_iff (turns : List Turn) :
    history r (s.recalling p) (.card card) turns = history r (s.recalling q) (.card card) turns ↔
      begin r (s.recalling p) card = begin r (s.recalling q) card := by
  constructor
  · intro same
    have first := congrArg List.head? same
    rw [head?_history, head?_history] at first
    exact Option.some.inj first
  · intro same
    simp only [history, beginFor, history_advance_recalling, same]

/-- The phases for a card are the same after two earlier costs exactly if the same can pay the
cost of the card, and so they are unless its rule tells the earlier costs apart. -/
theorem history_forgets_earlier_cost (r : Referee) (s : Situation) (card : Card) (turns : List Turn)
    (p q : Option Payment) :
    (history r (s.recalling p) (.card card) turns =
        history r (s.recalling q) (.card card) turns ↔
      (card.extraCost.isSome → r.costTargets ((s.playedAs (.card card)).recalling p) =
        r.costTargets ((s.playedAs (.card card)).recalling q))) ∧
    ((∀ cost, card.extraCost = some cost → ¬cost.targeting.TellsApart p q) →
      history r (s.recalling p) (.card card) turns =
        history r (s.recalling q) (.card card) turns) := by
  rw [history_recalling_iff, begin_recalling_iff]
  refine ⟨Iff.rfl, fun blind _ => ?_⟩
  exact Referee.costTargets_recalling (s := s.playedAs (.card card)) blind

/-! ### A scout that has paid before -/

/-- A card that is paid for with a drone of the lane from which the cost was paid. -/
def encore : Card where
  id := "ENCORE"
  name := "Encore"
  targeting := { type := "DRONE" }
  extraCost := some
    { type := "EXHAUST_DRONE"
      targeting :=
        { type := "DRONE", affinity := some "FRIENDLY", location := some "COST_SOURCE_LANE" } }

def scoutPaid : Payment := { target := scoutTarget, sourceLane := some "lane1" }

/-- The encore can be paid for because an earlier card has been. -/
theorem encore_recalls_scout :
    history {} (patrol.recalling (some scoutPaid)) (.card encore) [] =
        [.ok (.cost encore [scoutTarget])] ∧
      history {} (patrol.recalling none) (.card encore) [] = [.ok .idle] ∧
      history {} (patrol.recalling (some scoutPaid)) (.card encore) [] ≠
        history {} (patrol.recalling none) (.card encore) [] := by
  refine ⟨rfl, rfl, fun same => ?_⟩
  cases (List.cons.inj same).1

/-- The withdrawal forgets that the scout has paid before, and the encore is told by it. -/
theorem withdrawal_forgets_scout :
    ((∀ cost, withdrawal.extraCost = some cost →
        ¬cost.targeting.TellsApart (some scoutPaid) none) ∧
      history {} (patrol.recalling (some scoutPaid)) (.card withdrawal)
          [.still (.select scoutTarget)] =
        history {} (patrol.recalling none) (.card withdrawal) [.still (.select scoutTarget)]) ∧
    (encore.extraCost.isSome ∧
      Referee.costTargets {} ((patrol.playedAs (.card encore)).recalling (some scoutPaid)) ≠
        Referee.costTargets {} ((patrol.playedAs (.card encore)).recalling none)) := by
  have blind : ∀ cost, withdrawal.extraCost = some cost →
      ¬cost.targeting.TellsApart (some scoutPaid) none := by
    rintro cost ⟨⟩ ⟨-, reach, named, -⟩
    cases named
  refine ⟨⟨blind, ?_⟩, rfl, fun same => ?_⟩
  · exact (history_forgets_earlier_cost {} patrol withdrawal _ (some scoutPaid) none).2 blind
  · have paid := (history_forgets_earlier_cost {} patrol encore [] (some scoutPaid) none).1
    cases (List.cons.inj (paid.2 fun _ => same)).1

end CardFlow

end DroneTactics
