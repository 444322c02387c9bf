import DroneTactics.Proofs.Fault
import DroneTactics.Proofs.Targeting.Choice
import DroneTactics.Selection.CardFlow

/-!
The turns of the card flow. Everything that a turn can do is said here once, phase by
phase and with its conditions, and later facts about the flow are read off this list.
-/

namespace DroneTactics

/-- The situation in which a card finds its targets: it is in play and its cost is paid. -/
def Situation.whenPaid (s : Situation) (card : Card) (payment : Option Payment) : Situation :=
  (s.playedAs (.card card)).afterPaying payment

namespace CardFlow

/-! ### The phase after the cost -/

inductive Enters (r : Referee) (s : Situation) (card : Card) (payment : Option Payment) :
    CardPhase → Prop
  | untargeted (free : card.untargeted = true) :
      Enters r s card payment (.complete card payment none none false)
  | fizzled (aimed : card.untargeted = false) (nothing : r.targetsAfter s payment = .ok [])
      (paid : payment.isSome) :
      Enters r s card payment (.complete card payment none none true)
  | offered {offers : List Target} (aimed : card.untargeted = false)
      (found : r.targetsAfter s payment = .ok offers) (waits : offers = [] → payment = none) :
      Enters r s card payment (.effect card payment offers)

variable {r : Referee} {s : Situation} {card : Card} {payment : Option Payment}
  {next : CardPhase}

theorem enterEffect_eq_ok_iff :
    enterEffect r s card payment = .ok next ↔ Enters r s card payment next := by
  constructor
  · intro h
    unfold enterEffect at h
    split at h
    case isTrue free =>
        obtain rfl := pure_eq_ok_iff.1 h
        exact .untargeted free
    case isFalse aimed =>
        have aimed : card.untargeted = false := by simpa using aimed
        obtain ⟨offers, found, h⟩ := bind_eq_ok_iff.1 h
        split at h
        case isTrue empty =>
            obtain rfl := pure_eq_ok_iff.1 h
            obtain ⟨none_left, paid⟩ : offers = [] ∧ payment.isSome := by simpa using empty
            exact .fizzled aimed (none_left ▸ found) paid
        case isFalse waits =>
            obtain rfl := pure_eq_ok_iff.1 h
            refine .offered aimed found ?_
            rintro rfl
            simpa using waits
  · intro h
    cases h with
    | untargeted free => simp [enterEffect, free]
    | fizzled aimed nothing paid =>
        simp [enterEffect, aimed, nothing, paid, bind_eq_ok_iff]
    | @offered offers aimed found waits =>
        have go : ¬(offers = [] ∧ payment.isSome) := by
          rintro ⟨empty, paid⟩
          simp [waits empty] at paid
        simp [enterEffect, aimed, found, go, bind_eq_ok_iff]

/-- Once a cost is chosen the flow does not wait for a target when there is none. -/
theorem Enters.remains {payment : Payment} (h : Enters r s card (some payment) next) :
    next ≠ .effect card (some payment) [] := by
  rintro rfl
  cases h with
  | offered _ _ waits => simpa using waits rfl

theorem payment?_of_enters (enters : Enters r s card payment next) :
    next.payment? = payment := by
  cases enters <;> rfl

/-! ### The first phase -/

inductive Begins (r : Referee) (s : Situation) (card : Card) : CardPhase → Prop
  | unpayable (costs : card.extraCost.isSome)
      (nothing : r.costTargets (s.playedAs (.card card)) = .ok []) : Begins r s card .idle
  | cost {offers : List Target} (costs : card.extraCost.isSome)
      (found : r.costTargets (s.playedAs (.card card)) = .ok offers) (remains : offers ≠ []) :
      Begins r s card (.cost card offers)
  | pointless (free : card.extraCost = none)
      (enters : Enters r (s.playedAs (.card card)) card none (.effect card none [])) :
      Begins r s card .idle
  | free {next : CardPhase} (free : card.extraCost = none)
      (enters : Enters r (s.playedAs (.card card)) card none next)
      (remains : next ≠ .effect card none []) : Begins r s card next

theorem begin_eq_ok_iff : begin r s card = .ok next ↔ Begins r s card next := by
  constructor
  · intro h
    unfold begin at h
    split at h
    case isTrue costs =>
        obtain ⟨offers, found, h⟩ := bind_eq_ok_iff.1 h
        obtain rfl := pure_eq_ok_iff.1 h
        cases offers with
        | nil => exact .unpayable costs found
        | cons => exact .cost costs found (by simp)
    case isFalse free =>
        have free : card.extraCost = none := by simpa using free
        obtain ⟨phase, entered, h⟩ := bind_eq_ok_iff.1 h
        have enters := enterEffect_eq_ok_iff.1 entered
        split at h
        case h_1 c p _ =>
            obtain rfl := pure_eq_ok_iff.1 h
            cases enters with
            | offered aimed found waits => exact .pointless free (.offered aimed found waits)
        case h_2 remains =>
            obtain rfl := pure_eq_ok_iff.1 h
            exact .free free enters (remains card none)
  · intro h
    cases h with
    | unpayable costs nothing =>
        rw [begin, if_pos costs, nothing]
        rfl
    | cost costs found remains =>
        rw [begin, if_pos costs, found]
        exact pure_eq_ok_iff.2 (if_neg (by simpa using remains))
    | pointless free enters =>
        rw [begin, if_neg (by simp [free]), enterEffect_eq_ok_iff.2 enters]
        rfl
    | free free enters remains =>
        rw [begin, if_neg (by simp [free]), enterEffect_eq_ok_iff.2 enters]
        cases enters with
        | untargeted => rfl
        | fizzled => rfl
        | @offered offers =>
            cases offers with
            | nil => exact absurd rfl remains
            | cons => rfl

theorem payment?_of_begins (begins : Begins r s card next) : next.payment? = none := by
  cases begins with
  | unpayable => rfl
  | cost => rfl
  | pointless => rfl
  | free _ enters => exact payment?_of_enters enters

/-! ### Picking an offered target -/

/-- What picking an offered target can lead to. -/
inductive Chooses (r : Referee) (s : Situation) : CardPhase → Target → CardPhase → Prop
  | costGone {card : Card} {offers : List Target} {target : Target}
      (drone : target.kind = .drone) (gone : s.field.station? target.id = none) :
      Chooses r s (.cost card offers) target .idle
  | costMoves {card : Card} {offers : List Target} {target : Target} {lane : Option LaneId}
      (located : s.field.Locates target none lane)
      (moves : card.extraCost.any ExtraCost.isMovement = true) :
      Chooses r s (.cost card offers) target
        (.costDestination card { target, sourceLane := lane }
          ((s.field.neighbours lane).map (.ofLane · s.acting)))
  | costPaid {card : Card} {offers : List Target} {target : Target} {lane : Option LaneId}
      {next : CardPhase} (located : s.field.Locates target none lane)
      (stays : card.extraCost.any ExtraCost.isMovement = false)
      (enters : Enters r (s.playedAs (.card card)) card
        (some { target, sourceLane := lane }) next) :
      Chooses r s (.cost card offers) target next
  | destination {card : Card} {payment : Payment} {offers : List Target} {target : Target}
      {next : CardPhase} (enters : Enters r (s.playedAs (.card card)) card
        (some { payment with destinationLane := some target.id }) next) :
      Chooses r s (.costDestination card payment offers) target next
  | only {card : Card} {payment : Option Payment} {offers : List Target} {target : Target}
      (single : card.secondary = none) :
      Chooses r s (.effect card payment offers) target
        (.complete card payment (some target) none false)
  | primaryGone {card : Card} {payment : Option Payment} {offers : List Target}
      {target : Target} {rule : SecondaryTargeting} (double : card.secondary = some rule)
      (drone : target.kind = .drone)
      (gone : (s.whenPaid card payment).field.station? target.id = none) :
      Chooses r s (.effect card payment offers) target .idle
  | primaryAlone {card : Card} {payment : Option Payment} {offers : List Target}
      {target : Target} {rule : SecondaryTargeting} {lane : Option LaneId}
      (double : card.secondary = some rule)
      (located : (s.whenPaid card payment).field.Locates target target.lane lane)
      (nothing : (s.whenPaid card payment).secondaryTargets
        ⟨target, lane, target.owner⟩ rule = []) :
      Chooses r s (.effect card payment offers) target
        (.complete card payment (some target) none true)
  | primary {card : Card} {payment : Option Payment} {offers seconds : List Target}
      {target : Target} {rule : SecondaryTargeting} {lane : Option LaneId}
      (double : card.secondary = some rule)
      (located : (s.whenPaid card payment).field.Locates target target.lane lane)
      (found : (s.whenPaid card payment).secondaryTargets
        ⟨target, lane, target.owner⟩ rule = seconds)
      (remains : seconds ≠ []) :
      Chooses r s (.effect card payment offers) target
        (.secondary card ⟨target, lane, target.owner⟩ payment seconds)
  | second {card : Card} {primary : PrimaryChoice} {payment : Option Payment}
      {offers : List Target} {target : Target} :
      Chooses r s (.secondary card primary payment offers) target
        (.complete card payment (some primary.target) (some target) false)

variable {target : Target}

theorem chooseCost_of_locates {lane : Option LaneId}
    (located : s.field.Locates target none lane) :
    chooseCost r s card target =
      if card.extraCost.any ExtraCost.isMovement then
        pure (.costDestination card { target, sourceLane := lane }
          ((s.field.neighbours lane).map (.ofLane · s.acting)))
      else enterEffect r s card (some { target, sourceLane := lane }) := by
  unfold Battlefield.Locates at located
  split at located
  case isTrue drone =>
      obtain ⟨st, found, rfl⟩ := located
      simp only [chooseCost, if_pos drone, found]
  case isFalse other =>
      subst located
      simp only [chooseCost, if_neg other]

theorem chooseCost_of_gone (drone : target.kind = .drone)
    (gone : s.field.station? target.id = none) : chooseCost r s card target = .ok .idle := by
  simp only [chooseCost, if_pos drone, gone]
  rfl

theorem chooseEffect_of_locates {rule : SecondaryTargeting} {lane : Option LaneId}
    {seconds : List Target} (double : card.secondary = some rule)
    (located : (s.afterPaying payment).field.Locates target target.lane lane)
    (found : (s.afterPaying payment).secondaryTargets ⟨target, lane, target.owner⟩ rule =
      seconds) :
    chooseEffect s card payment target =
      if seconds = [] then .complete card payment (some target) none true
      else .secondary card ⟨target, lane, target.owner⟩ payment seconds := by
  unfold Battlefield.Locates at located
  split at located
  case isTrue drone =>
      obtain ⟨st, stands, rfl⟩ := located
      cases seconds with
      | nil =>
          rw [if_pos rfl]
          simp only [chooseEffect, double, if_pos drone, stands, found]
      | cons =>
          rw [if_neg (List.cons_ne_nil _ _)]
          simp only [chooseEffect, double, if_pos drone, stands, found]
  case isFalse other =>
      subst located
      cases seconds with
      | nil =>
          rw [if_pos rfl]
          simp only [chooseEffect, double, if_neg other, found]
      | cons =>
          rw [if_neg (List.cons_ne_nil _ _)]
          simp only [chooseEffect, double, if_neg other, found]

theorem chooseEffect_of_gone {rule : SecondaryTargeting} (double : card.secondary = some rule)
    (drone : target.kind = .drone)
    (gone : (s.afterPaying payment).field.station? target.id = none) :
    chooseEffect s card payment target = .idle := by
  simp only [chooseEffect, double, if_pos drone, gone]

/-- What the choice of a cost answers is what the turns of the flow allow. -/
theorem chooseCost_eq_ok_iff {offers : List Target} :
    chooseCost r (s.playedAs (.card card)) card target = .ok next ↔
      Chooses r s (.cost card offers) target next := by
  constructor
  · intro h
    rcases s.field.locates_or_gone target none with ⟨lane, located⟩ | ⟨drone, gone⟩
    · rw [chooseCost_of_locates (s := s.playedAs (.card card)) located] at h
      split at h
      case isTrue moves =>
          obtain rfl := pure_eq_ok_iff.1 h
          exact .costMoves located moves
      case isFalse stays =>
          exact .costPaid located (by simpa using stays) (enterEffect_eq_ok_iff.1 h)
    · rw [chooseCost_of_gone (s := s.playedAs (.card card)) drone gone] at h
      cases h
      exact .costGone drone gone
  · intro h
    cases h with
    | costGone drone gone => exact chooseCost_of_gone drone gone
    | costMoves located moves =>
        rw [chooseCost_of_locates (s := s.playedAs (.card card)) located, if_pos moves]
        rfl
    | costPaid located stays enters =>
        rw [chooseCost_of_locates (s := s.playedAs (.card card)) located, if_neg (by simp [stays])]
        exact enterEffect_eq_ok_iff.2 enters

/-- What the choice of a target leads to is what the turns of the flow allow. -/
theorem chooseEffect_eq_iff {offers : List Target} :
    chooseEffect (s.playedAs (.card card)) card payment target = next ↔
      Chooses r s (.effect card payment offers) target next := by
  constructor
  · rintro rfl
    cases double : card.secondary with
    | none =>
        simp only [chooseEffect, double]
        exact .only double
    | some rule =>
        rcases (s.whenPaid card payment).field.locates_or_gone target target.lane with
          ⟨lane, located⟩ | ⟨drone, gone⟩
        · rw [chooseEffect_of_locates (s := s.playedAs (.card card)) double located rfl]
          split
          case isTrue nothing => exact .primaryAlone double located nothing
          case isFalse remains => exact .primary double located rfl remains
        · rw [chooseEffect_of_gone (s := s.playedAs (.card card)) double drone gone]
          exact .primaryGone double drone gone
  · intro h
    cases h with
    | only single => simp only [chooseEffect, single]
    | primaryGone double drone gone => exact chooseEffect_of_gone double drone gone
    | primaryAlone double located nothing =>
        rw [chooseEffect_of_locates (s := s.playedAs (.card card)) double located nothing,
          if_pos rfl]
    | primary double located found remains =>
        rw [chooseEffect_of_locates (s := s.playedAs (.card card)) double located found,
          if_neg remains]

theorem choose_eq_ok_iff {phase : CardPhase} (waits : phase.offers ≠ []) :
    choose r s phase target = .ok next ↔ Chooses r s phase target next := by
  cases phase with
  | idle => exact absurd rfl waits
  | cost card offers => exact chooseCost_eq_ok_iff
  | costDestination card payment offers =>
      rw [choose, chooseCostDestination, enterEffect_eq_ok_iff]
      constructor
      · exact .destination
      · rintro ⟨⟩
        assumption
  | effect card payment offers =>
      rw [choose, pure_eq_ok_iff]
      exact chooseEffect_eq_iff
  | secondary card primary payment offers =>
      rw [choose, pure_eq_ok_iff]
      constructor
      · rintro rfl
        exact .second
      · rintro ⟨⟩
        rfl
  | complete => exact absurd rfl waits

/-! ### One event -/

variable {phase : CardPhase} {event : Event} {picked : Target}

theorem advance_select_of_some (found : pick? phase.offers picked = some target) :
    advance r s phase (.select picked) = choose r s phase target := by
  simp only [advance, found]

theorem advance_select_of_none (missing : pick? phase.offers picked = none) :
    advance r s phase (.select picked) = .ok phase := by
  simp only [advance, missing]
  rfl

/-- An event calls the flow off, changes nothing, or picks the first of some offered
targets with one key. -/
theorem advance_cases (h : advance r s phase event = .ok next) :
    next = .idle ∨ next = phase ∨
      ∃ target, FirstOf phase.offers target ∧ Chooses r s phase target next := by
  cases event with
  | cancel => exact .inl (pure_eq_ok_iff.1 h).symm
  | confirm => exact .inr (.inl (pure_eq_ok_iff.1 h).symm)
  | select picked =>
      cases found : pick? phase.offers picked with
      | none =>
          rw [advance_select_of_none found] at h
          exact .inr (.inl (Except.ok.inj h).symm)
      | some target =>
          rw [advance_select_of_some found] at h
          have first := firstOf_of_pick? found
          exact .inr (.inr ⟨target, first, (choose_eq_ok_iff first.ne_nil).1 h⟩)

/-- An offered target is picked by anything with its key. -/
theorem Chooses.advance_select (h : Chooses r s phase target next)
    (found : pick? phase.offers picked = some target) :
    CardFlow.advance r s phase (.select picked) = .ok next := by
  rw [advance_select_of_some found]
  exact (choose_eq_ok_iff (firstOf_of_pick? found).ne_nil).2 h

/-- An offered target that is the first with its key can be picked by itself. -/
theorem Chooses.advance (h : Chooses r s phase target next) (first : FirstOf phase.offers target) :
    CardFlow.advance r s phase (.select target) = .ok next :=
  h.advance_select first

end CardFlow

end DroneTactics
