import DroneTactics.Proofs.Selection.CardStep
import DroneTactics.Proofs.Selection.Run

/-!
What a card flow keeps on record of a payment. What has paid is what was picked for it, and
stays on record, with the lane that is chosen for a moved drone, until the flow is called off.
That lane is beside the one in which the drone was located on the boards of its pick.
-/

namespace DroneTactics

/-- A record of a payment and a later one: a lane may have been added to it. -/
structure Payment.Continues (p q : Payment) : Prop where
  target : q.target = p.target
  sourceLane : q.sourceLane = p.sourceLane
  destinationLane : ∀ lane, p.destinationLane = some lane → q.destinationLane = some lane

theorem Payment.Continues.refl (p : Payment) : p.Continues p := ⟨rfl, rfl, fun _ moved => moved⟩

theorem Payment.Continues.trans {p q q' : Payment} (first : p.Continues q)
    (second : q.Continues q') : p.Continues q' where
  target := second.target.trans first.target
  sourceLane := second.sourceLane.trans first.sourceLane
  destinationLane lane moved := second.destinationLane lane (first.destinationLane lane moved)

def CardPhase.Records (phase : CardPhase) (p : Payment) : Prop :=
  phase = .idle ∨ ∃ q, phase.payment? = some q ∧ p.Continues q

def CardPhase.Unmoved : CardPhase → Prop
  | .costDestination _ payment _ => payment.destinationLane = none
  | _ => True

/-- A phase after the pick of what pays: what is moved can only go to one of some lanes. -/
def CardPhase.GoesTo (lanes : List LaneId) : CardPhase → Prop
  | .cost _ _ => False
  | .costDestination _ payment offers =>
      payment.destinationLane = none ∧ ∀ t ∈ offers, t.id ∈ lanes
  | phase => ∀ p lane, phase.payment? = some p → p.destinationLane = some lane → lane ∈ lanes

theorem CardPhase.GoesTo.mem {phase : CardPhase} {lanes : List LaneId} {p : Payment}
    {lane : LaneId} (goes : phase.GoesTo lanes) (paid : phase.payment? = some p)
    (moved : p.destinationLane = some lane) : lane ∈ lanes := by
  cases phase with
  | cost => exact goes.elim
  | costDestination =>
      cases paid
      cases goes.1.symm.trans moved
  | idle => exact goes p lane paid moved
  | effect => exact goes p lane paid moved
  | secondary => exact goes p lane paid moved
  | complete => exact goes p lane paid moved

namespace CardFlow

variable {r : Referee} {s s' : Situation} {card : Card} {payment : Option Payment}
  {phase next first : CardPhase} {target : Target} {turns : List Turn}

/-- What holds of an idle flow and is kept by every pick on boards with a property holds
after every run on such boards. -/
theorem invariant_of_chooses {Q : Battlefield → Prop} {P : CardPhase → Prop} (idle : P .idle)
    (keeps : ∀ {f phase target next}, Q f → P phase → target ∈ phase.offers →
      Chooses r { s with field := f } phase target next → P next)
    (boards : ∀ f ∈ Transition.fields s turns, Q f)
    (run : (advance r).Run s first turns s' phase) (initial : P first) : P phase := by
  refine run.invariant_on ?_ boards initial
  intro f state event next holds before head
  rcases advance_cases head with rfl | rfl | ⟨target, chosen, chooses⟩
  · exact idle
  · exact before
  · exact keeps holds before chosen.mem chooses

/-! ### What stays on record -/

theorem payer_of_chooses {p : Payment} (chooses : Chooses r s phase target next)
    (paid : next.payment? = some p) : p.target = target ∨
      ∃ before, phase.payment? = some before ∧ p.target = before.target := by
  cases chooses with
  | costGone => cases paid
  | primaryGone => cases paid
  | costMoves =>
      cases paid
      exact .inl rfl
  | costPaid _ _ enters =>
      cases (payment?_of_enters enters).symm.trans paid
      exact .inl rfl
  | destination enters =>
      cases (payment?_of_enters enters).symm.trans paid
      exact .inr ⟨_, rfl, rfl⟩
  | only => exact .inr ⟨p, paid, rfl⟩
  | primaryAlone => exact .inr ⟨p, paid, rfl⟩
  | primary => exact .inr ⟨p, paid, rfl⟩
  | second => exact .inr ⟨p, paid, rfl⟩

theorem records_of_chooses {p : Payment} (unmoved : phase.Unmoved)
    (chooses : Chooses r s phase target next) (paid : phase.payment? = some p) :
    next.Records p := by
  cases chooses with
  | costGone => cases paid
  | costMoves => cases paid
  | costPaid => cases paid
  | primaryGone => exact .inl rfl
  | destination enters =>
      -- The chosen lane is added to a record that has none yet.
      cases paid
      refine .inr ⟨_, payment?_of_enters enters, rfl, rfl, fun lane moved => ?_⟩
      cases unmoved.symm.trans moved
  | only => exact .inr ⟨p, paid, .refl p⟩
  | primaryAlone => exact .inr ⟨p, paid, .refl p⟩
  | primary => exact .inr ⟨p, paid, .refl p⟩
  | second => exact .inr ⟨p, paid, .refl p⟩

theorem unmoved_of_enters (enters : Enters r s card payment next) : next.Unmoved := by
  cases enters <;> trivial

theorem unmoved_of_begins (begins : Begins r s card next) : next.Unmoved := by
  cases begins with
  | unpayable => trivial
  | cost => trivial
  | pointless => trivial
  | free _ enters => exact unmoved_of_enters enters

theorem unmoved_of_chooses (chooses : Chooses r s phase target next) : next.Unmoved := by
  cases chooses with
  | costMoves => rfl
  | costPaid _ _ enters => exact unmoved_of_enters enters
  | destination enters => exact unmoved_of_enters enters
  | costGone => trivial
  | only => trivial
  | primaryGone => trivial
  | primaryAlone => trivial
  | primary => trivial
  | second => trivial

theorem unmoved_of_run (begins : begin r s card = .ok first)
    (run : (advance r).Run s first turns s' phase) : phase.Unmoved := by
  refine invariant_of_chooses (Q := fun _ => True) trivial ?_ (fun f mem => trivial) run
    (unmoved_of_begins (begin_eq_ok_iff.1 begins))
  intro f phase target next _ before mem chooses
  exact unmoved_of_chooses chooses

theorem records_of_run {p : Payment} (unmoved : first.Unmoved) (paid : first.payment? = some p)
    (run : (advance r).Run s first turns s' phase) : phase.Records p := by
  have known : first.Unmoved ∧ first.Records p := ⟨unmoved, .inr ⟨p, paid, .refl p⟩⟩
  refine (invariant_of_chooses (Q := fun _ => True)
    (P := fun phase => phase.Unmoved ∧ phase.Records p) ⟨trivial, .inl rfl⟩ ?_
    (fun f mem => trivial) run known).2
  rintro f phase target next - ⟨unmoved, gone | ⟨q, paid, continues⟩⟩ mem chooses
  · rw [gone] at mem
    exact absurd mem List.not_mem_nil
  · refine ⟨unmoved_of_chooses chooses, ?_⟩
    rcases records_of_chooses unmoved chooses paid with gone | ⟨q', paid', further⟩
    · exact .inl gone
    · exact .inr ⟨q', paid', continues.trans further⟩

/-! ### The boards on which a payment is picked -/

/-- A run goes through the pick of what pays, and that turn has the given boards. -/
inductive PickedOn (r : Referee) (s : Situation) (first : CardPhase) :
    List Turn → Situation → CardPhase → Battlefield → Prop
  | intro {s₁ s₂ : Situation} {card : Card} {offers : List Target} {next last : CardPhase}
      {earlier later : List Turn} {turn : Turn}
      (waits : (advance r).Run s first earlier s₁ (.cost card offers))
      (pays : advance r (s₁.atTurn turn) (.cost card offers) turn.event = .ok next)
      (paid : next.payment?.isSome)
      (rest : (advance r).Run (s₁.atTurn turn) next later s₂ last) :
      PickedOn r s first (earlier ++ turn :: later) s₂ last (s₁.atTurn turn).field

theorem PickedOn.mem_fields {f : Battlefield} (picked : PickedOn r s first turns s' phase f) :
    f ∈ Transition.fields s turns := by
  obtain ⟨waits, pays, -, -⟩ := picked
  have here := (waits.snoc pays).field_mem
  rw [List.append_cons]
  exact Transition.fields_subset_append here

/-- What pays is picked while a cost is asked for. -/
theorem exists_cost_of_chooses (chooses : Chooses r s phase target next)
    (unpaid : phase.payment? = none) (paid : next.payment?.isSome) :
    ∃ card offers, phase = .cost card offers := by
  have kept : next.payment? = phase.payment? → False := by
    intro same
    rw [same, unpaid] at paid
    cases paid
  cases chooses with
  | costMoves => exact ⟨_, _, rfl⟩
  | costPaid => exact ⟨_, _, rfl⟩
  | destination => cases unpaid
  | costGone => cases paid
  | primaryGone => cases paid
  | only => exact (kept rfl).elim
  | primaryAlone => exact (kept rfl).elim
  | primary => exact (kept rfl).elim
  | second => exact (kept rfl).elim

/-- What has been paid at the end of a run was picked in one of its turns. -/
theorem exists_pickedOn (unpaid : first.payment? = none)
    (run : (advance r).Run s first turns s' phase) (paid : phase.payment?.isSome) :
    ∃ f, PickedOn r s first turns s' phase f := by
  revert paid
  refine run.snoc_induction (motive := fun turns s' phase => phase.payment?.isSome →
    ∃ f, PickedOn r s first turns s' phase f) ?_ ?_
  · intro paid
    rw [unpaid] at paid
    cases paid
  · intro turns s' phase turn next run known head paid
    cases before : phase.payment? with
    | some p =>
        obtain ⟨f, waits, pays, paid', rest⟩ := known (by rw [before, Option.isSome_some])
        rw [List.append_assoc, List.cons_append]
        exact ⟨_, .intro waits pays paid' (rest.snoc head)⟩
    | none =>
        rcases advance_cases head with rfl | rfl | ⟨target, chosen, chooses⟩
        · cases paid
        · rw [before] at paid
          cases paid
        · obtain ⟨card, offers, rfl⟩ := exists_cost_of_chooses chooses before paid
          exact ⟨_, .intro run head paid (.nil _ _)⟩

/-! ### Where a drone that pays can be moved -/

theorem goesTo_of_enters {lanes : List LaneId} {p : Payment}
    (enters : Enters r s card (some p) next)
    (goes : ∀ lane, p.destinationLane = some lane → lane ∈ lanes) : next.GoesTo lanes := by
  cases enters with
  | untargeted =>
      rintro q lane ⟨⟩
      exact goes lane
  | fizzled =>
      rintro q lane ⟨⟩
      exact goes lane
  | offered =>
      rintro q lane ⟨⟩
      exact goes lane

/-- A drone that has been picked goes to a lane beside the one in which it was located. -/
theorem goesTo_of_cost {offers : List Target} {p : Payment}
    (chooses : Chooses r s (.cost card offers) target next) (paid : next.payment? = some p) :
    s.field.Locates p.target none p.sourceLane ∧
      next.GoesTo (s.field.neighbours p.sourceLane) := by
  cases chooses with
  | costGone => cases paid
  | costMoves located =>
      cases paid
      refine ⟨located, rfl, fun t offered => ?_⟩
      obtain ⟨lane, beside, rfl⟩ := List.mem_map.1 offered
      exact beside
  | costPaid located _ enters =>
      obtain rfl := Option.some.inj ((payment?_of_enters enters).symm.trans paid)
      exact ⟨located, goesTo_of_enters enters nofun⟩

theorem goesTo_of_chooses {lanes : List LaneId} (before : phase.GoesTo lanes)
    (mem : target ∈ phase.offers) (chooses : Chooses r s phase target next) :
    next.GoesTo lanes := by
  cases chooses with
  | costGone => exact before.elim
  | costMoves => exact before.elim
  | costPaid => exact before.elim
  | destination enters =>
      refine goesTo_of_enters enters ?_
      rintro lane ⟨⟩
      exact before.2 target mem
  | only => exact before
  | primaryAlone => exact before
  | primary => exact before
  | second => exact before
  | primaryGone => exact fun p lane paid => nomatch paid

theorem goesTo_of_run {lanes : List LaneId} (initial : first.GoesTo lanes)
    (run : (advance r).Run s first turns s' phase) : phase.GoesTo lanes := by
  have idle : CardPhase.idle.GoesTo lanes := fun p lane paid => nomatch paid
  refine invariant_of_chooses (Q := fun _ => True) idle ?_ (fun f mem => trivial) run initial
  intro f phase target next _ before mem chooses
  exact goesTo_of_chooses before mem chooses

/-- A drone that pays by moving goes to a lane beside the one in which it was located on the
boards of its pick. -/
theorem PickedOn.beside {f : Battlefield} {p : Payment} {lane : LaneId}
    (picked : PickedOn r s first turns s' phase f) (paid : phase.payment? = some p)
    (moved : p.destinationLane = some lane) :
    ∃ source, f.Locates p.target none source ∧ lane ∈ f.neighbours source := by
  obtain ⟨waits, pays, paid', rest⟩ := picked
  obtain ⟨q, paid'⟩ := Option.isSome_iff_exists.1 paid'
  rcases advance_cases pays with rfl | rfl | ⟨target, chosen, chooses⟩
  · cases paid'
  · cases paid'
  · obtain ⟨located, goes⟩ := goesTo_of_cost chooses paid'
    have there := goesTo_of_run goes rest
    rcases records_of_run (unmoved_of_chooses chooses) paid' rest with
      rfl | ⟨p', same, continues⟩
    · cases paid
    · obtain rfl := Option.some.inj (same.symm.trans paid)
      rw [← continues.target] at located
      exact ⟨_, located, there.mem paid moved⟩

end CardFlow

end DroneTactics
