import DroneTactics.Proofs.Selection.Record
import DroneTactics.Proofs.Targeting.Mobility

/-!
The flow of a card goes forward only. Every event other than calling off leaves the phase as
it is, ends the flow or leads to a later phase, so after four changes at most nothing is left
to choose. What has been chosen on the way is not taken back: the card, what pays and from
which lane, the lane that it is moved to and the first target stay as they are.
-/

namespace DroneTactics

namespace CardPhase

/-- The place of a phase in the order in which a flow goes through them. A flow that is called
off is past them all. -/
def stage : CardPhase → Nat
  | .cost _ _ => 0
  | .costDestination _ _ _ => 1
  | .effect _ _ _ => 2
  | .secondary _ _ _ _ => 3
  | .complete _ _ _ _ _ => 4
  | .idle => 5

def Ended (phase : CardPhase) : Prop :=
  phase = .idle ∨ ∃ card payment target second skipped,
    phase = .complete card payment target second skipped

def primary? : CardPhase → Option Target
  | .secondary _ primary _ _ => some primary.target
  | .complete _ _ target _ _ => target
  | .idle => none
  | .cost _ _ => none
  | .costDestination _ _ _ => none
  | .effect _ _ _ => none

def Skips : CardPhase → Prop
  | .complete _ _ _ second skipped => skipped = true → second = none
  | _ => True

theorem ended_iff {phase : CardPhase} : phase.Ended ↔ 4 ≤ phase.stage := by
  cases phase <;> simp [Ended, stage]

end CardPhase

namespace CardFlow

variable {r : Referee} {s s' : Situation} {card : Card} {payment : Option Payment}
  {phase next first : CardPhase} {target : Target} {event : Event} {turns : List Turn}

/-! ### Later phases -/

theorem two_le_stage_of_enters (enters : Enters r s card payment next) : 2 ≤ next.stage := by
  cases enters <;> simp [CardPhase.stage]

theorem stage_lt_of_chooses (chooses : Chooses r s phase target next) :
    phase.stage < next.stage := by
  cases chooses with
  | costPaid _ _ enters => exact Nat.lt_of_lt_of_le Nat.zero_lt_two (two_le_stage_of_enters enters)
  | destination enters => exact two_le_stage_of_enters enters
  | costGone => simp [CardPhase.stage]
  | costMoves => simp [CardPhase.stage]
  | only => simp [CardPhase.stage]
  | primaryGone => simp [CardPhase.stage]
  | primaryAlone => simp [CardPhase.stage]
  | primary => simp [CardPhase.stage]
  | second => simp [CardPhase.stage]

/-- Every event that changes the phase leads to a later one, calling off included. -/
theorem stage_lt_of_advance (h : advance r s phase event = .ok next) (changes : next ≠ phase) :
    phase.stage < next.stage := by
  rcases advance_cases h with rfl | same | ⟨target, -, chooses⟩
  · cases phase with
    | idle => exact absurd rfl changes
    | _ => simp [CardPhase.stage]
  · exact absurd same changes
  · exact stage_lt_of_chooses chooses

theorem advance_of_ended (ended : phase.Ended) (goes_on : event ≠ .cancel) :
    advance r s phase event = .ok phase := by
  rcases ended with rfl | ⟨card, payment, target, second, skipped, rfl⟩
  · cases event with
    | cancel => exact absurd rfl goes_on
    | _ => rfl
  · cases event with
    | cancel => exact absurd rfl goes_on
    | _ => rfl

/-! ### What is not taken back -/

theorem card?_of_enters (enters : Enters r s card payment next) : next.card? = some card := by
  cases enters <;> rfl

theorem card?_of_chooses (chooses : Chooses r s phase target next) :
    next = .idle ∨ next.card? = phase.card? := by
  cases chooses with
  | costGone => exact .inl rfl
  | primaryGone => exact .inl rfl
  | costPaid _ _ enters => exact .inr (card?_of_enters enters)
  | destination enters => exact .inr (card?_of_enters enters)
  | costMoves => exact .inr rfl
  | only => exact .inr rfl
  | primaryAlone => exact .inr rfl
  | primary => exact .inr rfl
  | second => exact .inr rfl

theorem primary?_of_chooses {t : Target} (chosen : phase.primary? = some t)
    (chooses : Chooses r s phase target next) : next.primary? = some t := by
  cases chooses with
  | second => exact chosen
  | costGone => cases chosen
  | costMoves => cases chosen
  | costPaid => cases chosen
  | destination => cases chosen
  | only => cases chosen
  | primaryGone => cases chosen
  | primaryAlone => cases chosen
  | primary => cases chosen

theorem skips_of_enters (enters : Enters r s card payment next) : next.Skips := by
  cases enters <;> simp [CardPhase.Skips]

theorem skips_of_begins (begins : Begins r s card next) : next.Skips := by
  cases begins with
  | free _ enters => exact skips_of_enters enters
  | unpayable => trivial
  | cost => trivial
  | pointless => trivial

theorem skips_of_chooses (chooses : Chooses r s phase target next) : next.Skips := by
  cases chooses with
  | costPaid _ _ enters => exact skips_of_enters enters
  | destination enters => exact skips_of_enters enters
  | costGone => trivial
  | costMoves => trivial
  | only => simp [CardPhase.Skips]
  | primaryGone => trivial
  | primaryAlone => simp [CardPhase.Skips]
  | primary => trivial
  | second => simp [CardPhase.Skips]

/-! ### Along a run -/

/-- What a pick keeps unless it calls the flow off holds until then. -/
theorem idle_or_of_run {P : CardPhase → Prop}
    (keeps : ∀ {s phase target next}, P phase → Chooses r s phase target next →
      next = .idle ∨ P next)
    (run : (advance r).Run s first turns s' phase) (initial : first = .idle ∨ P first) :
    phase = .idle ∨ P phase := by
  refine invariant_of_chooses (Q := fun _ => True) (P := fun phase => phase = .idle ∨ P phase)
    (.inl rfl) ?_ (fun f mem => trivial) run initial
  rintro f phase target next - before mem chooses
  rcases before with rfl | holds
  · exact absurd mem List.not_mem_nil
  · exact keeps holds chooses

theorem card?_of_run (begins : begin r s card = .ok first)
    (run : (advance r).Run s first turns s' phase) : phase = .idle ∨ phase.card? = some card := by
  have initial : first = .idle ∨ first.card? = some card := by
    cases begin_eq_ok_iff.1 begins with
    | free _ enters => exact .inr (card?_of_enters enters)
    | cost => exact .inr rfl
    | unpayable => exact .inl rfl
    | pointless => exact .inl rfl
  refine idle_or_of_run (P := fun phase => phase.card? = some card) ?_ run initial
  intro s phase target next same chooses
  rw [← same]
  exact card?_of_chooses chooses

theorem primary?_of_run {t : Target} (chosen : first.primary? = some t)
    (run : (advance r).Run s first turns s' phase) :
    phase = .idle ∨ phase.primary? = some t := by
  refine idle_or_of_run (P := fun phase => phase.primary? = some t) ?_ run (.inr chosen)
  intro s phase target next chosen chooses
  exact .inr (primary?_of_chooses chosen chooses)

theorem skips_of_run (begins : begin r s card = .ok first)
    (run : (advance r).Run s first turns s' phase) : phase.Skips := by
  refine invariant_of_chooses (Q := fun _ => True) trivial ?_ (fun f mem => trivial) run
    (skips_of_begins (begin_eq_ok_iff.1 begins))
  intro f phase target next _ _ _ chooses
  exact skips_of_chooses chooses

/-- A flow is in a phase after a number of changes, and in a last one later. It goes forward
from the phase, and what the phase holds is still there in the last one. -/
structure Forward (r : Referee) (card : Card) (changes : Nat) (phase last : CardPhase) :
    Prop where
  later : ∀ s event next, event ≠ .cancel → advance r s phase event = .ok next →
    next = phase ∨ next = .idle ∨ phase.stage < next.stage
  ended : phase.Ended → ∀ s event, event ≠ .cancel → advance r s phase event = .ok phase
  bounded : 4 ≤ changes → phase.Ended
  card : phase = .idle ∨ phase.card? = some card
  payment : ∀ p, phase.payment? = some p → last.Records p
  primary : ∀ t, phase.primary? = some t → last = .idle ∨ last.primary? = some t
  skips : ∀ card payment target second, phase = .complete card payment target second true →
    second = none

/-- The flow of a card goes forward and takes no choice back, whatever boards its turns
bring. -/
theorem forward_of_begin {before after : List Turn} {s₁ s₂ : Situation} {last : CardPhase}
    {m n : Nat} (begins : begin r s card = .ok first)
    (run : (advance r).Changes s first before m s₁ phase)
    (rest : (advance r).Changes s₁ phase after n s₂ last) : Forward r card m phase last := by
  have reached := Transition.run_iff_exists_changes.2 ⟨m, run⟩
  have goes_on := Transition.run_iff_exists_changes.2 ⟨n, rest⟩
  refine ⟨?_, ?_, ?_, ?_, ?_, ?_, ?_⟩
  · intro s event next _ head
    by_cases same : next = phase
    · exact .inl same
    · exact .inr (.inr (stage_lt_of_advance head same))
  · intro ended s event not_off
    exact advance_of_ended ended not_off
  · intro many
    have risen := run.add_le stage_lt_of_advance
    exact CardPhase.ended_iff.2 (by omega)
  · exact card?_of_run begins reached
  · intro p paid
    exact records_of_run (unmoved_of_run begins reached) paid goes_on
  · intro t chosen
    exact primary?_of_run chosen goes_on
  · rintro card payment target second rfl
    exact skips_of_run begins reached rfl

/-! ### A withdrawal from its start to its end -/

def scoutMoved : CardPhase :=
  .effect withdrawal
    (some { target := scoutTarget, sourceLane := "lane1", destinationLane := "lane2" })
    [.ofDrone scout "player1" "lane2"]

def scoutAimed : CardPhase :=
  .complete withdrawal
    (some { target := scoutTarget, sourceLane := "lane1", destinationLane := "lane2" })
    (some (.ofDrone scout "player1" "lane2")) none false

/-- The scout and its new lane are picked, and then the scout once more as the target. -/
theorem withdrawal_goes_forward :
    begin {} patrol withdrawal = .ok (.cost withdrawal [scoutTarget]) ∧
    (advance {}).Changes patrol (.cost withdrawal [scoutTarget])
      [.still (.select scoutTarget), .still .confirm,
        .still (.select (.ofLane "lane2" "player1"))] 2 patrol scoutMoved ∧
    (advance {}).Changes patrol scoutMoved
      [.still (.select (.ofDrone scout "player1" "lane2"))] 1 patrol scoutAimed ∧
    Forward {} withdrawal 2 scoutMoved scoutAimed := by
  have begins : begin {} patrol withdrawal = .ok (.cost withdrawal [scoutTarget]) := rfl
  have run : (advance {}).Changes patrol (.cost withdrawal [scoutTarget])
      [.still (.select scoutTarget), .still .confirm,
        .still (.select (.ofLane "lane2" "player1"))] 2 patrol scoutMoved :=
    .change rfl nofun (.stay rfl (.change rfl nofun (.nil _ _)))
  have rest : (advance {}).Changes patrol scoutMoved
      [.still (.select (.ofDrone scout "player1" "lane2"))] 1 patrol scoutAimed :=
    .change rfl nofun (.nil _ _)
  exact ⟨begins, run, rest, forward_of_begin begins run rest⟩

end CardFlow

end DroneTactics
