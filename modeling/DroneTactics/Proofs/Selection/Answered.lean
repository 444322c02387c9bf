import DroneTactics.Proofs.Selection.MoveStep
import DroneTactics.Proofs.Selection.Record
import DroneTactics.Proofs.Targeting.Mobility
import DroneTactics.Proofs.Targeting.Slots

/-!
Events that have an answer. If the rules reckon with integers a flow for a card answers every
event, on whatever boards it comes, and so does a flow for a single move. A group move answers
every event but one: when its lane is picked the board of the acting player is needed, and the
drones in the lane are asked whether they are able to move.
-/

namespace DroneTactics

/-! ### Cards -/

namespace Referee

variable {r : Referee} {slots times : Int}

theorem exists_ruleTargets (counts : r.rules.Counts slots times) (rule : Targeting)
    (s : Situation) : ∃ offers, r.ruleTargets rule s = .ok offers := by
  unfold ruleTargets
  split
  case h_2 => exact ⟨[], rfl⟩
  case h_1 aim _ =>
      split
      case isFalse => exact ⟨[], rfl⟩
      case isTrue =>
          cases aim with
          | droneType => exact Situation.exists_slotTargets counts s
          | _ => exact ⟨_, rfl⟩

/-- It can always be said what the definition in play can target. -/
theorem exists_targets (counts : r.rules.Counts slots times) (s : Situation) :
    ∃ offers, r.targets s = .ok offers := by
  unfold targets
  split
  case isTrue => exact Situation.exists_slotTargets counts s
  case isFalse => exact exists_ruleTargets counts _ s

end Referee

def CardPhase.Charges : CardPhase → Prop
  | .cost card _ => card.extraCost.isSome
  | _ => True

namespace CardFlow

variable {r : Referee} {slots times : Int} {card : Card}

theorem exists_enters (counts : r.rules.Counts slots times) (s : Situation) (card : Card)
    (payment : Option Payment) : ∃ next, Enters r s card payment next := by
  by_cases free : card.untargeted = true
  · exact ⟨_, .untargeted free⟩
  · have aimed : card.untargeted = false := by simpa using free
    obtain ⟨offers, found⟩ := Referee.exists_targets counts (s.afterPaying payment)
    by_cases waits : offers = [] → payment = none
    · exact ⟨_, .offered aimed found waits⟩
    · obtain ⟨rfl, paid⟩ := Classical.not_imp.1 waits
      exact ⟨_, .fizzled aimed found (Option.isSome_iff_ne_none.2 paid)⟩

/-- Whatever is picked of what a phase offers, the flow goes on. -/
theorem exists_chooses (counts : r.rules.Counts slots times) (s : Situation) {phase : CardPhase}
    (waits : phase.offers ≠ []) (target : Target) : ∃ next, Chooses r s phase target next := by
  cases phase with
  | idle => exact absurd rfl waits
  | complete => exact absurd rfl waits
  | secondary => exact ⟨_, .second⟩
  | costDestination card payment offers =>
      obtain ⟨next, enters⟩ := exists_enters counts (s.playedAs (.card card)) card
        (some { payment with destinationLane := some target.id })
      exact ⟨next, .destination enters⟩
  | cost card offers =>
      rcases s.field.locates_or_gone target none with ⟨lane, located⟩ | ⟨drone, gone⟩
      · by_cases moves : card.extraCost.any ExtraCost.isMovement = true
        · exact ⟨_, .costMoves located moves⟩
        · obtain ⟨next, enters⟩ := exists_enters counts (s.playedAs (.card card)) card
            (some { target, sourceLane := lane })
          exact ⟨next, .costPaid located (by simpa using moves) enters⟩
      · exact ⟨_, .costGone drone gone⟩
  | effect card payment offers => exact ⟨_, chooseEffect_eq_iff.1 rfl⟩

theorem exists_advance (counts : r.rules.Counts slots times) (s : Situation) (phase : CardPhase)
    (event : Event) : ∃ next, advance r s phase event = .ok next := by
  cases event with
  | cancel => exact ⟨_, rfl⟩
  | confirm => exact ⟨_, rfl⟩
  | select picked =>
      cases found : pick? phase.offers picked with
      | none => exact ⟨_, advance_select_of_none found⟩
      | some target =>
          have waits := (firstOf_of_pick? found).ne_nil
          obtain ⟨next, chooses⟩ := exists_chooses counts s waits target
          exact ⟨next, chooses.advance_select found⟩

theorem charges_of_enters {s : Situation} {payment : Option Payment} {next : CardPhase}
    (enters : Enters r s card payment next) : next.Charges := by
  cases enters <;> trivial

theorem charges_of_run {s s' : Situation} {first phase : CardPhase} {turns : List Turn}
    (begins : begin r s card = .ok first) (run : (advance r).Run s first turns s' phase) :
    phase.Charges := by
  refine invariant_of_chooses (Q := fun _ => True) trivial ?_ (fun f mem => trivial) run ?_
  · intro f phase target next _ _ _ chooses
    cases chooses with
    | costPaid _ _ enters => exact charges_of_enters enters
    | destination enters => exact charges_of_enters enters
    | _ => trivial
  · cases begin_eq_ok_iff.1 begins with
    | cost costs => exact costs
    | free _ enters => exact charges_of_enters enters
    | _ => trivial

end CardFlow

/-! ### Moves -/

/-- A group move cannot answer: an offered lane is picked, and the acting player has no board
or has a ready drone there, but the inert keyword cannot be looked for. -/
def MovePhase.Stalls (rules : Rules) (s : Situation) : MovePhase → Event → Prop
  | .sourceLane _ offers, .select picked => ∃ target, pick? offers picked = some target ∧
      ∀ board, s.field.board? s.acting = some board → rules.hasInertKeyword = false ∧
        ∃ d ∈ board.dronesIn target.id, d.exhausted = false
  | _, _ => False

namespace MoveFlow

variable {rules : Rules} {s s' : Situation} {phase first : MovePhase} {target : Target}

theorem exists_chooses_sourceLane_iff {count : Option Int} {offers : List Target} :
    (∃ next, Chooses rules s (.sourceLane count offers) target next) ↔
      ∃ board, s.field.board? s.acting = some board ∧
        rules.askToMove (board.dronesIn target.id) = .ok () := by
  constructor
  · rintro ⟨next, ⟨⟩⟩
    exact ⟨_, ‹_›, ‹_›⟩
  · rintro ⟨board, owned, asked⟩
    exact ⟨_, .sourceLane owned asked⟩

/-- Whatever is picked, a move goes on unless it is the lane of a group. -/
theorem exists_chooses (waits : phase.offers ≠ [])
    (drawn : ∀ count offers, phase ≠ .sourceLane count offers) (target : Target) :
    ∃ next, Chooses rules s phase target next := by
  cases phase with
  | idle => exact absurd rfl waits
  | complete => exact absurd rfl waits
  | drone => exact ⟨_, chooseDrone_eq_iff.1 rfl⟩
  | destination => exact ⟨_, .destination⟩
  | sourceLane count offers => exact absurd rfl (drawn count offers)
  | drones => exact ⟨_, toggle_eq_iff.1 rfl⟩
  | destinationLane => exact ⟨_, .destinationLane⟩

theorem exists_advance_iff (event : Event) :
    (∃ next, advance rules s phase event = .ok next) ↔ ¬phase.Stalls rules s event := by
  cases event with
  | cancel => exact iff_of_true ⟨_, rfl⟩ (by cases phase <;> exact id)
  | confirm => exact iff_of_true ⟨_, rfl⟩ (by cases phase <;> exact id)
  | select picked =>
      cases found : pick? phase.offers picked with
      | none =>
          refine iff_of_true ⟨_, advance_select_of_none found⟩ ?_
          cases phase with
          | sourceLane =>
              rintro ⟨target, picks, -⟩
              cases found.symm.trans picks
          | _ => exact id
      | some target =>
          have waits := (firstOf_of_pick? found).ne_nil
          simp only [advance_select_of_some found, choose_eq_ok_iff waits]
          cases phase with
          | sourceLane count offers =>
              have found : pick? offers picked = some target := found
              rw [exists_chooses_sourceLane_iff]
              simp only [MovePhase.Stalls, found, Option.some.injEq, exists_eq_left',
                Rules.askToMove_eq_ok_iff, not_forall, exists_prop]
          | _ => exact iff_of_true (exists_chooses waits (fun _ _ h => nomatch h) target) id

/-- Nothing leads to the choice of the lane of a group. -/
theorem ne_sourceLane_of_advance {event : Event} {next : MovePhase}
    (drawn : ∀ count offers, phase ≠ .sourceLane count offers)
    (head : advance rules s phase event = .ok next) (count : Option Int) (offers : List Target) :
    next ≠ .sourceLane count offers := by
  rintro rfl
  rcases advance_cases head with same | same | ⟨_, _, _, _, _, _, same⟩ | ⟨target, -, chooses⟩
  · cases same
  · exact drawn count offers same.symm
  · cases same
  · cases chooses

theorem not_stalls_of_drawn (drawn : ∀ count offers, phase ≠ .sourceLane count offers)
    (now : Situation) (event : Event) : ¬phase.Stalls rules now event := by
  cases phase with
  | sourceLane count offers => exact absurd rfl (drawn count offers)
  | _ => exact id

theorem not_stalls_of_single {turns : List Turn} (begins : beginSingle rules s = .ok first)
    (run : (advance rules).Run s first turns s' phase) (now : Situation) (event : Event) :
    ¬phase.Stalls rules now event := by
  obtain ⟨-, -, single⟩ := bind_eq_ok_iff.1 begins
  obtain rfl := pure_eq_ok_iff.1 single
  have drawn : ∀ count offers, phase ≠ .sourceLane count offers := by
    refine run.invariant (P := fun phase => ∀ count offers, phase ≠ .sourceLane count offers)
      ne_sourceLane_of_advance ?_
    rintro _ _ ⟨⟩
  exact not_stalls_of_drawn drawn now event

end MoveFlow

/-! ### Both flows -/

/-- Along every run and on whatever boards, a flow for a card answers every event and only asks
to pay where there is a cost, a single move answers every event, and a group move answers every
event unless it stalls. -/
theorem answered_of_flows (r : Referee) (rules : Rules) (s : Situation) {slots times : Int}
    (counts : r.rules.Counts slots times) :
    (∀ card first turns s' phase, CardFlow.begin r s card = .ok first →
      (CardFlow.advance r).Run s first turns s' phase →
      phase.Charges ∧ ∀ turn : Turn, ∃ next,
        CardFlow.advance r (s'.atTurn turn) phase turn.event = .ok next) ∧
    (∀ first turns s' phase, MoveFlow.begin rules s .single = .ok first →
      (MoveFlow.advance rules).Run s first turns s' phase →
      ∀ turn : Turn, ∃ next,
        MoveFlow.advance rules (s'.atTurn turn) phase turn.event = .ok next) ∧
    (∀ first turns s' phase, MoveFlow.begin rules s .group = .ok first →
      (MoveFlow.advance rules).Run s first turns s' phase →
      ∀ turn : Turn, (∃ next,
        MoveFlow.advance rules (s'.atTurn turn) phase turn.event = .ok next) ↔
          ¬phase.Stalls rules (s'.atTurn turn) turn.event) := by
  refine ⟨?_, ?_, ?_⟩
  · intro card first turns s' phase begins run
    refine ⟨CardFlow.charges_of_run begins run, fun turn => ?_⟩
    exact CardFlow.exists_advance counts (s'.atTurn turn) phase turn.event
  · intro first turns s' phase begins run turn
    have goes_on := MoveFlow.not_stalls_of_single begins run (s'.atTurn turn) turn.event
    exact (MoveFlow.exists_advance_iff turn.event).2 goes_on
  · intro first turns s' phase _ _ turn
    exact MoveFlow.exists_advance_iff turn.event

/-! ### The boards of strangers -/

def strangers : Battlefield where
  first := { player := "player3" }
  second := { player := "player4" }
  lanes := ["lane1", "lane2"]

def amongStrangers (lane : LaneId) : Turn :=
  { event := .select (.ofLane lane "player1"), field := some strangers }

def mustering : MovePhase := .sourceLane none [.ofLane "lane1" "player1"]

/-- The lane of the scout is offered, and on the boards of strangers it cannot be picked. -/
theorem stalls_among_strangers :
    MoveFlow.begin {} patrol .group = .ok mustering ∧
      MoveFlow.advance {} (patrol.atTurn (amongStrangers "lane1")) mustering
        (amongStrangers "lane1").event = .error .noBoard :=
  ⟨rfl, rfl⟩

/-- On the boards of strangers the card that the scout pays for goes on, and a group move in the
lane of the scout does not. -/
theorem patrol_among_strangers :
    (({} : Referee).rules.Counts 1 1 ∧
      CardFlow.begin {} patrol withdrawal = .ok (.cost withdrawal [scoutTarget]) ∧
      ∃ phase next, (CardFlow.advance {}).Run patrol (.cost withdrawal [scoutTarget])
          [.still (.select scoutTarget)] patrol phase ∧
        CardFlow.advance {} (patrol.atTurn (amongStrangers "lane2")) phase
          (amongStrangers "lane2").event = .ok next) ∧
    (MoveFlow.begin {} patrol .group = .ok mustering ∧
      (∃ next, MoveFlow.advance {} (patrol.atTurn (.still (.select (.ofLane "lane1" "player1"))))
        mustering (.select (.ofLane "lane1" "player1")) = .ok next) ∧
      ¬∃ next, MoveFlow.advance {} (patrol.atTurn (amongStrangers "lane1")) mustering
        (amongStrangers "lane1").event = .ok next) := by
  obtain ⟨cards, -, groups⟩ := answered_of_flows {} {} patrol Rules.counts_usual
  have paying : CardFlow.begin {} patrol withdrawal = .ok (.cost withdrawal [scoutTarget]) := rfl
  have grouping : MoveFlow.begin {} patrol .group = .ok mustering := rfl
  have run : (CardFlow.advance {}).Run patrol (.cost withdrawal [scoutTarget])
      [.still (.select scoutTarget)] patrol _ := .cons rfl (.nil _ _)
  obtain ⟨-, answers⟩ := cards _ _ _ _ _ paying run
  obtain ⟨next, answered⟩ := answers (amongStrangers "lane2")
  have answers_iff := groups _ _ _ _ grouping (.nil _ _)
  refine ⟨⟨Rules.counts_usual, paying, _, next, run, answered⟩, grouping, ?_, ?_⟩
  · refine (answers_iff (.still (.select (.ofLane "lane1" "player1")))).2 ?_
    rintro ⟨target, -, unanswered⟩
    obtain ⟨unknown, -⟩ := unanswered _ rfl
    cases unknown
  · refine fun answered => (answers_iff (amongStrangers "lane1")).1 answered ?_
    exact ⟨_, rfl, fun board owned => nomatch owned⟩

end DroneTactics
