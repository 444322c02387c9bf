import DroneTactics.Proofs.Targeting.Resemblance
import DroneTactics.Selection.CardFlow
import DroneTactics.Selection.MoveFlow
import Mathlib.Data.List.Forall2

/-!
Selections on boards that resemble each other. A flow asks for targets and looks up boards,
places and lanes; for a card it asks on the boards that the cost leaves, so these have to
resemble each other too. Two histories under the same events are then equal state by state.
-/

namespace DroneTactics

/-- Boards on which everything is as it is in a situation, now and once anything is paid. -/
structure Situation.Echoes (s : Situation) (g : Battlefield) : Prop where
  unpaid : s.Resembles g
  paid : ∀ p : Payment, (s.on (p.applyTo s.field)).Resembles (p.applyTo g)

namespace Situation.Echoes

variable {s : Situation} {g : Battlefield}

theorem playedAs (same : s.Echoes g) (d : Definition) : (s.playedAs d).Echoes g :=
  ⟨same.unpaid.playedAs d, fun p => (same.paid p).playedAs d⟩

theorem afterPaying (same : s.Echoes g) (payment : Option Payment) :
    ∃ g', (s.on g).afterPaying payment = (s.afterPaying payment).on g' ∧
      (s.afterPaying payment).Resembles g' := by
  cases payment with
  | none => exact ⟨g, rfl, same.unpaid.field, same.unpaid.stats⟩
  | some p => exact ⟨p.applyTo g, rfl, (same.paid p).field, (same.paid p).stats⟩

theorem targetsAfter (same : s.Echoes g) (r : Referee) (payment : Option Payment) :
    r.targetsAfter (s.on g) payment = r.targetsAfter s payment := by
  obtain ⟨g', paid, resembles⟩ := same.afterPaying payment
  rw [Referee.targetsAfter, paid, Referee.targets_on resembles, Referee.targetsAfter]

end Situation.Echoes

/-! ### Cards -/

namespace CardFlow

variable {s : Situation} {g : Battlefield}

theorem enterEffect_on (same : s.Echoes g) (r : Referee) (card : Card)
    (payment : Option Payment) :
    enterEffect r (s.on g) card payment = enterEffect r s card payment := by
  rw [enterEffect, same.targetsAfter, enterEffect]

theorem beginFor_on (same : s.Echoes g) (r : Referee) (d : Definition) :
    beginFor r (s.on g) d = beginFor r s d := by
  cases d with
  | card card =>
      have played : (s.on g).playedAs (.card card) = (s.playedAs (.card card)).on g := rfl
      have same := same.playedAs (.card card)
      simp only [beginFor, begin, played, Referee.costTargets_on same.unpaid,
        enterEffect_on same]
  | ability a => rfl

theorem chooseCost_on (same : s.Echoes g) (r : Referee) (card : Card) (target : Target) :
    chooseCost r (s.on g) card target = chooseCost r s card target := by
  have field := same.unpaid.field
  simp only [chooseCost, Situation.field_on, Situation.acting_on, field.stations,
    field.neighbours_eq, enterEffect_on same]

theorem chooseEffect_on (same : s.Echoes g) (card : Card) (payment : Option Payment)
    (target : Target) :
    chooseEffect (s.on g) card payment target = chooseEffect s card payment target := by
  obtain ⟨g', paid, resembles⟩ := same.afterPaying payment
  simp only [chooseEffect, paid, Situation.field_on, resembles.field.stations,
    Situation.secondaryTargets_on resembles]

theorem advance_on (same : s.Echoes g) (r : Referee) (phase : CardPhase) (event : Event) :
    advance r (s.on g) phase event = advance r s phase event := by
  have chosen (target : Target) : choose r (s.on g) phase target = choose r s phase target := by
    cases phase with
    | cost card offers => exact chooseCost_on (same.playedAs (.card card)) r card target
    | costDestination card payment offers =>
        exact enterEffect_on (same.playedAs (.card card)) r card _
    | effect card payment offers =>
        exact congrArg Except.ok
          (chooseEffect_on (same.playedAs (.card card)) card payment target)
    | secondary => rfl
    | idle => rfl
    | complete => rfl
  unfold advance
  simp only [chosen]

end CardFlow

/-! ### Moves -/

namespace MoveFlow

variable {s : Situation} {g : Battlefield}

theorem begin_on (same : s.Resembles g) (rules : Rules) (kind : Kind) :
    begin rules (s.on g) kind = begin rules s kind := by
  cases kind with
  | single =>
      simp only [begin, beginSingle, Situation.definition_on, Situation.field_on,
        same.field.lanes, Situation.canMove_on same, Situation.dronePasses_on same]
      -- The drones that are asked and those that are offered are gathered board by board.
      rw [Situation.flatMap_boards_on same
          (fun owner b c looks => by simp only [looks.dronesAlong]),
        Situation.flatMap_boards_on same
          (fun owner b c looks => by simp only [looks.dronesAlong])]
  | group =>
      simp only [begin, beginGroup, Situation.definition_on, Situation.field_on,
        Situation.acting_on, same.field.lanes]
      rcases same.field.board_cases s.acting with ⟨ours, theirs⟩ | ⟨b, c, ours, theirs, -, looks⟩
      · rw [ours, theirs]
      · simp only [ours, theirs, looks.droneCount]

theorem toDestination_on (same : s.Resembles g) : toDestination (s.on g) = toDestination s := by
  funext lane selected
  simp only [toDestination, Situation.field_on, Situation.acting_on, same.field.neighbours_eq]

theorem choose_on (same : s.Resembles g) (rules : Rules) (phase : MovePhase) (target : Target) :
    choose rules (s.on g) phase target = choose rules s phase target := by
  cases phase with
  | drone offers =>
      simp only [choose, chooseDrone, Situation.field_on, same.field.stations,
        same.field.neighbours_eq]
  | sourceLane count offers =>
      simp only [choose, chooseSourceLane, Situation.field_on, Situation.acting_on,
        Situation.canMove_on same]
      rcases same.field.board_cases s.acting with ⟨ours, theirs⟩ | ⟨b, c, ours, theirs, -, looks⟩
      · rw [ours, theirs]
      · simp only [ours, theirs, looks.drones]
  | drones lane count selected offers =>
      simp only [choose, toggle, toDestination_on same]
  | destination => rfl
  | destinationLane => rfl
  | idle => rfl
  | complete => rfl

theorem advance_on (same : s.Resembles g) (rules : Rules) (phase : MovePhase) (event : Event) :
    advance rules (s.on g) phase event = advance rules s phase event := by
  have confirmed : confirm (s.on g) phase = confirm s phase := by
    cases phase <;> simp only [confirm, toDestination_on same]
  unfold advance
  simp only [confirmed, choose_on same]

end MoveFlow

/-! ### Histories -/

structure Turn.Pairs (R : Battlefield → Battlefield → Prop) (a b : Turn) : Prop where
  event : a.event = b.event
  field : Option.Rel R a.field b.field

theorem Turn.Pairs.getD {R : Battlefield → Battlefield → Prop} {a b : Turn} {f g : Battlefield}
    (pair : Turn.Pairs R a b) (start : R f g) : R (a.field.getD f) (b.field.getD g) := by
  have brought : ∀ {x y}, Option.Rel R x y → R (x.getD f) (y.getD g) := by
    rintro x y (there | _)
    · exact there
    · exact start
  exact brought pair.field

namespace Transition

variable {σ : Type} {step : Transition σ} {s : Situation} {R : Battlefield → Battlefield → Prop}

/-- If a single event cannot tell related boards apart, a history cannot either. -/
theorem history_on
    (blind : ∀ {f g} state event, R f g → step (s.on g) state event = step (s.on f) state event)
    {turns turns' : List Turn} (pairs : List.Forall₂ (Turn.Pairs R) turns turns')
    {f g : Battlefield} (start : R f g) (state : σ) :
    step.history (s.on g) state turns' = step.history (s.on f) state turns := by
  induction pairs generalizing f g state with
  | nil => rfl
  | @cons a b rest rest' pair pairs ih =>
      have next := pair.getD start
      have here : (s.on f).atTurn a = s.on (a.field.getD f) := rfl
      have there : (s.on g).atTurn b = s.on (b.field.getD g) := rfl
      simp only [history, here, there]
      rw [← pair.event, blind state a.event next]
      cases step (s.on (a.field.getD f)) state a.event with
      | ok reached => exact congrArg (Except.ok reached :: ·) (ih next reached)
      | error fault => exact congrArg (Except.error fault :: ·) (ih next state)

end Transition

def Situation.Faithful (s : Situation) (R : Battlefield → Battlefield → Prop) : Prop :=
  ∀ f g, R f g → (s.on f).Echoes g

section Histories

variable {s : Situation} {R : Battlefield → Battlefield → Prop} {g : Battlefield}
  {turns turns' : List Turn}

theorem CardFlow.history_on (faithful : s.Faithful R) (related : R s.field g)
    (pairs : List.Forall₂ (Turn.Pairs R) turns turns') (r : Referee) (d : Definition) :
    history r (s.on g) d turns' = history r s d turns := by
  have blind : ∀ {f g} phase event, R f g →
      advance r (s.on g) phase event = advance r (s.on f) phase event := by
    intro f g phase event related
    exact advance_on (faithful f g related) r phase event
  have begins : beginFor r (s.on g) d = beginFor r s d :=
    beginFor_on (faithful s.field g related) r d
  unfold history
  rw [begins]
  cases beginFor r s d with
  | ok phase =>
      have rest := Transition.history_on blind pairs related phase
      exact congrArg (Except.ok phase :: ·) rest
  | error fault => rfl

theorem MoveFlow.history_on (faithful : s.Faithful R) (related : R s.field g)
    (pairs : List.Forall₂ (Turn.Pairs R) turns turns') (rules : Rules) (kind : Kind) :
    history rules (s.on g) kind turns' = history rules s kind turns := by
  have blind : ∀ {f g} phase event, R f g →
      advance rules (s.on g) phase event = advance rules (s.on f) phase event := by
    intro f g phase event related
    exact advance_on (faithful f g related).unpaid rules phase event
  have begins : begin rules (s.on g) kind = begin rules s kind :=
    begin_on (faithful s.field g related).unpaid rules kind
  unfold history
  rw [begins]
  cases begin rules s kind with
  | ok phase =>
      have rest := Transition.history_on blind pairs related phase
      exact congrArg (Except.ok phase :: ·) rest
  | error fault => rfl

end Histories

/-! ### What no question tells apart -/

/-- Boards that nothing tells from those of a situation: neither a question about targets nor
a selection, whatever boards in the relation its turns bring. -/
structure Situation.Indistinct (s : Situation) (R : Battlefield → Battlefield → Prop)
    (r : Referee) (g : Battlefield) : Prop where
  targets : r.targets (s.on g) = r.targets s
  costTargets : r.costTargets (s.on g) = r.costTargets s
  targetsAfter : ∀ payment, r.targetsAfter (s.on g) payment = r.targetsAfter s payment
  secondaryTargets : ∀ primary rule,
    (s.on g).secondaryTargets primary rule = s.secondaryTargets primary rule
  affectedIds : ∀ d lanes, (s.on g).affectedIds d lanes = s.affectedIds d lanes
  playable : ∀ (d : Definition) player, d.playable player g = d.playable player s.field
  cardHistory : ∀ d {turns turns'}, List.Forall₂ (Turn.Pairs R) turns turns' →
    CardFlow.history r (s.on g) d turns' = CardFlow.history r s d turns
  moveHistory : ∀ kind {turns turns'}, List.Forall₂ (Turn.Pairs R) turns turns' →
    MoveFlow.history r.rules (s.on g) kind turns' = MoveFlow.history r.rules s kind turns

theorem Situation.Faithful.indistinct {s : Situation} {R : Battlefield → Battlefield → Prop}
    (faithful : s.Faithful R) (r : Referee) {g : Battlefield} (related : R s.field g) :
    s.Indistinct R r g := by
  have same : s.Echoes g := faithful s.field g related
  exact {
    targets := Referee.targets_on same.unpaid r
    costTargets := Referee.costTargets_on same.unpaid r
    targetsAfter := same.targetsAfter r
    secondaryTargets := secondaryTargets_on same.unpaid
    affectedIds := affectedIds_on same.unpaid
    playable := same.unpaid.field.playable_eq
    cardHistory := fun d _ _ pairs => CardFlow.history_on faithful related pairs r d
    moveHistory := fun kind _ _ pairs => MoveFlow.history_on faithful related pairs r.rules kind }

end DroneTactics
