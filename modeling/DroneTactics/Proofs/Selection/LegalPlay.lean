import DroneTactics.Proofs.Selection.CardStep
import DroneTactics.Proofs.Selection.Run

/-!
The plays that the rules of a card allow, and the flow that reaches exactly them. A play
is described without events: what pays, what is aimed at once that is paid, and what
follows from the first aim. On boards that stay as they are, a description of every
phase is kept by every event, and every phase so described is reached by some events.
-/

namespace DroneTactics.CardFlow

def Reached (r : Referee) (s : Situation) (card : Card) (events : List Event)
    (phase : CardPhase) : Prop :=
  ∃ first, begin r s card = .ok first ∧ (advance r).Leads s first events phase

/-! ### Plays -/

/-- A target is offered as the cost of a card, and a drone stands in the given lane. -/
structure PaysWith (r : Referee) (s : Situation) (card : Card) (target : Target)
    (lane : Option LaneId) : Prop where
  offered : ∃ offers, r.costTargets (s.playedAs (.card card)) = .ok offers ∧
    FirstOf offers target
  located : s.field.Locates target none lane

/-- What pays for a card: nothing if it has no extra cost, and otherwise an offered
target, which moves to a neighbouring lane if moving is the cost. -/
def Pays (r : Referee) (s : Situation) (card : Card) : Option Payment → Prop
  | none => card.extraCost = none
  | some p => ∃ cost, card.extraCost = some cost ∧ PaysWith r s card p.target p.sourceLane ∧
      if cost.isMovement then
        ∃ lane ∈ s.field.neighbours p.sourceLane, p.destinationLane = some lane
      else p.destinationLane = none

/-- A card is paid for and asks for a target, and these are the offered ones. -/
structure Aims (r : Referee) (s : Situation) (card : Card) (payment : Option Payment)
    (offers : List Target) : Prop where
  pays : Pays r s card payment
  aimed : card.untargeted = false
  found : r.targetsAfter (s.playedAs (.card card)) payment = .ok offers

/-- A card asks for a second target after a first one, which counts as standing in the
given lane, and these are the offered ones. -/
structure Follows (s : Situation) (card : Card) (payment : Option Payment) (target : Target)
    (lane : Option LaneId) (seconds : List Target) : Prop where
  found : ∃ rule, card.secondary = some rule ∧
    (s.whenPaid card payment).secondaryTargets ⟨target, lane, target.owner⟩ rule = seconds
  located : (s.whenPaid card payment).field.Locates target target.lane lane

/-- The plays of a card: what pays, the target, the second target, and whether a choice
was skipped because there was nothing to choose. -/
inductive LegalPlay (r : Referee) (s : Situation) (card : Card) :
    Option Payment → Option Target → Option Target → Bool → Prop
  | untargeted {payment : Option Payment} (pays : Pays r s card payment)
      (free : card.untargeted = true) : LegalPlay r s card payment none none false
  | fizzled {payment : Option Payment} (aims : Aims r s card payment [])
      (paid : payment ≠ none) : LegalPlay r s card payment none none true
  | only {payment : Option Payment} {offers : List Target} {target : Target}
      (aims : Aims r s card payment offers) (first : FirstOf offers target)
      (single : card.secondary = none) : LegalPlay r s card payment (some target) none false
  | alone {payment : Option Payment} {offers : List Target} {target : Target}
      {lane : Option LaneId} (aims : Aims r s card payment offers)
      (first : FirstOf offers target) (follows : Follows s card payment target lane []) :
      LegalPlay r s card payment (some target) none true
  | double {payment : Option Payment} {offers seconds : List Target} {target second : Target}
      {lane : Option LaneId} (aims : Aims r s card payment offers)
      (first : FirstOf offers target) (follows : Follows s card payment target lane seconds)
      (chosen : FirstOf seconds second) :
      LegalPlay r s card payment (some target) (some second) false

/-! ### The phases on the way -/

def Legal (r : Referee) (s : Situation) (card : Card) : CardPhase → Prop
  | .idle => True
  | .cost c offers => c = card ∧ card.extraCost.isSome ∧
      r.costTargets (s.playedAs (.card card)) = .ok offers ∧ offers ≠ []
  | .costDestination c p offers => c = card ∧
      card.extraCost.any ExtraCost.isMovement = true ∧
      PaysWith r s card p.target p.sourceLane ∧ p.destinationLane = none ∧
      offers = (s.field.neighbours p.sourceLane).map (.ofLane · s.acting)
  | .effect c p offers => c = card ∧ Aims r s card p offers ∧ offers ≠ []
  | .secondary c primary p offers => c = card ∧
      (∃ firsts, Aims r s card p firsts ∧ FirstOf firsts primary.target) ∧
      Follows s card p primary.target primary.lane offers ∧ offers ≠ []
  | .complete c p target second skipped => c = card ∧ LegalPlay r s card p target second skipped

variable {r : Referee} {s : Situation} {card : Card} {payment : Option Payment}
  {phase next : CardPhase} {target : Target} {events : List Event}

theorem legal_of_enters (pays : Pays r s card payment)
    (enters : Enters r (s.playedAs (.card card)) card payment next)
    (remains : next ≠ .effect card payment []) : Legal r s card next := by
  cases enters with
  | untargeted free => exact ⟨rfl, .untargeted pays free⟩
  | fizzled aimed nothing paid =>
      exact ⟨rfl, .fizzled ⟨pays, aimed, nothing⟩ (Option.isSome_iff_ne_none.1 paid)⟩
  | offered aimed found =>
      refine ⟨rfl, ⟨pays, aimed, found⟩, ?_⟩
      rintro rfl
      exact remains rfl

theorem legal_of_begins (begins : Begins r s card next) : Legal r s card next := by
  cases begins with
  | unpayable => trivial
  | cost costs found remains => exact ⟨rfl, costs, found, remains⟩
  | pointless => trivial
  | free free enters remains =>
      have pays : Pays r s card none := free
      exact legal_of_enters pays enters remains

theorem legal_of_chooses (legal : Legal r s card phase) (first : FirstOf phase.offers target)
    (chooses : Chooses r s phase target next) : Legal r s card next := by
  cases chooses with
  | costGone => trivial
  | costMoves located moves =>
      obtain ⟨rfl, -, found, -⟩ := legal
      exact ⟨rfl, moves, ⟨⟨_, found, first⟩, located⟩, rfl, rfl⟩
  | costPaid located stays enters =>
      obtain ⟨rfl, costs, found, -⟩ := legal
      obtain ⟨cost, costs⟩ := Option.isSome_iff_exists.1 costs
      have stays : cost.isMovement = false := by simpa [costs] using stays
      have pays : Pays r s _ (some { target, sourceLane := _ }) :=
        ⟨cost, costs, ⟨⟨_, found, first⟩, located⟩, by simp [stays]⟩
      exact legal_of_enters pays enters enters.remains
  | @destination _ payment _ target _ enters =>
      obtain ⟨rfl, moves, picked, -, rfl⟩ := legal
      obtain ⟨lane, beside, rfl⟩ := firstOf_map_ofLane_iff.1 first
      obtain ⟨cost, costs, moves⟩ := (Option.any_eq_true _ _).1 moves
      have pays : Pays r s _ (some { payment with destinationLane := some lane }) :=
        ⟨cost, costs, picked, by simpa [moves] using beside⟩
      exact legal_of_enters pays enters enters.remains
  | only single =>
      obtain ⟨rfl, aims, -⟩ := legal
      exact ⟨rfl, .only aims first single⟩
  | primaryGone => trivial
  | primaryAlone double located nothing =>
      obtain ⟨rfl, aims, -⟩ := legal
      exact ⟨rfl, .alone aims first ⟨⟨_, double, nothing⟩, located⟩⟩
  | primary double located found remains =>
      obtain ⟨rfl, aims, -⟩ := legal
      exact ⟨rfl, ⟨_, aims, first⟩, ⟨⟨_, double, found⟩, located⟩, remains⟩
  | second =>
      obtain ⟨rfl, ⟨firsts, aims, chosen⟩, follows, -⟩ := legal
      exact ⟨rfl, .double aims chosen follows first⟩

/-- One event keeps the description. -/
theorem legal_of_advance {event : Event} (legal : Legal r s card phase)
    (h : advance r s phase event = .ok next) : Legal r s card next := by
  rcases advance_cases h with rfl | rfl | ⟨target, first, chooses⟩
  · trivial
  · exact legal
  · exact legal_of_chooses legal first chooses

theorem Reached.legal (reached : Reached r s card events phase) : Legal r s card phase := by
  obtain ⟨first, begins, run⟩ := reached
  exact run.invariant legal_of_advance (legal_of_begins (begin_eq_ok_iff.1 begins))

/-! ### Events for every play -/

theorem Begins.reached (begins : Begins r s card next) : Reached r s card [] next :=
  ⟨next, begin_eq_ok_iff.2 begins, Transition.leads_nil_iff.2 rfl⟩

theorem Reached.choose (reached : Reached r s card events phase)
    (first : FirstOf phase.offers target) (chooses : Chooses r s phase target next) :
    Reached r s card (events ++ [.select target]) next := by
  obtain ⟨start, begins, run⟩ := reached
  exact ⟨start, begins, run.snoc (chooses.advance first)⟩

/-- The costs that can be paid are reached by picking what pays, and its new lane. -/
theorem reached_of_enters (pays : Pays r s card payment)
    (enters : Enters r (s.playedAs (.card card)) card payment next)
    (remains : next ≠ .effect card payment []) :
    ∃ events, Reached r s card events next := by
  cases payment with
  | none => exact ⟨[], (Begins.free pays enters remains).reached⟩
  | some p =>
      obtain ⟨target, lane, goal⟩ := p
      obtain ⟨cost, costs, ⟨⟨offers, found, first⟩, located⟩, moved⟩ := pays
      have start := (Begins.cost (by simp [costs]) found first.ne_nil).reached
      split at moved
      case isTrue moves =>
          obtain ⟨goal, beside, rfl⟩ := moved
          have moves : card.extraCost.any ExtraCost.isMovement = true := by simp [costs, moves]
          have picked := start.choose first (.costMoves located moves)
          have offered : FirstOf ((s.field.neighbours lane).map (.ofLane · s.acting))
              (.ofLane goal s.acting) := firstOf_map_ofLane_iff.2 ⟨goal, beside, rfl⟩
          exact ⟨_, picked.choose offered (.destination enters)⟩
      case isFalse stays =>
          obtain rfl : goal = none := moved
          have stays : card.extraCost.any ExtraCost.isMovement = false := by
            simpa [costs] using stays
          exact ⟨_, start.choose first (.costPaid located stays enters)⟩

theorem Aims.reached {offers : List Target} (aims : Aims r s card payment offers)
    (remains : offers ≠ []) : ∃ events, Reached r s card events (.effect card payment offers) :=
  reached_of_enters aims.pays (.offered aims.aimed aims.found fun empty => absurd empty remains)
    (by simpa using remains)

theorem LegalPlay.reached {second : Option Target} {skipped : Bool} {target : Option Target}
    (play : LegalPlay r s card payment target second skipped) :
    ∃ events, Reached r s card events (.complete card payment target second skipped) := by
  cases play with
  | untargeted pays free => exact reached_of_enters pays (.untargeted free) (by simp)
  | fizzled aims paid =>
      exact reached_of_enters aims.pays
        (.fizzled aims.aimed aims.found (Option.isSome_iff_ne_none.2 paid)) (by simp)
  | only aims first single =>
      obtain ⟨events, aiming⟩ := aims.reached first.ne_nil
      exact ⟨_, aiming.choose first (.only single)⟩
  | alone aims first follows =>
      obtain ⟨events, aiming⟩ := aims.reached first.ne_nil
      obtain ⟨⟨rule, double, nothing⟩, located⟩ := follows
      exact ⟨_, aiming.choose first (.primaryAlone double located nothing)⟩
  | double aims first follows chosen =>
      obtain ⟨events, aiming⟩ := aims.reached first.ne_nil
      obtain ⟨⟨rule, double, found⟩, located⟩ := follows
      have primary := aiming.choose first (.primary double located found chosen.ne_nil)
      exact ⟨_, primary.choose chosen .second⟩

/-- The flow reaches exactly the legal plays of its card. -/
theorem reached_complete_iff {c : Card} {target second : Option Target} {skipped : Bool} :
    (∃ events, Reached r s card events (.complete c payment target second skipped)) ↔
      c = card ∧ LegalPlay r s card payment target second skipped := by
  constructor
  · rintro ⟨events, reached⟩
    exact reached.legal
  · rintro ⟨rfl, play⟩
    exact play.reached

end DroneTactics.CardFlow
