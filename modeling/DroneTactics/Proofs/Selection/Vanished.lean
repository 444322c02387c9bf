import DroneTactics.Proofs.Selection.Presence
import DroneTactics.Proofs.Selection.Provenance

/-!
Drones that vanish while choices are made. A drone is looked for on the boards of the turn
when it is picked as what pays, as the drone of a single move, or as the first target of a
card that asks for a second one; if it is not there the flow ends. No other turn looks for
it, so a drone that has been picked and then vanishes is still named when the choices are
complete.
-/

namespace DroneTactics

/-- A drone has been on one of some boards and does not stand in the lanes of a field. -/
def Vanished (before : List Battlefield) (f : Battlefield) (id : String) : Prop :=
  (∃ g ∈ before, g.Has id) ∧ ¬f.Holds id

/-! ### Along a run -/

namespace Transition

variable {σ : Type} {step : Transition σ} {offers choices : σ → List Target} {s s' : Situation}
  {start final : σ} {turns : List Turn}

/-- An event brings in nothing but lanes and the like, and drones that are on the boards. -/
def OffersPresent (step : Transition σ) (offers : σ → List Target) : Prop :=
  ∀ {s state event next}, step s state event = .ok next →
    ∀ t ∈ offers next, t.kind = .drone → t ∈ offers state ∨ s.field.Has t.id

/-- Whatever drone a run offers or chooses has been on the boards of the run. -/
theorem has_of_run (present : OffersPresent step offers)
    (chooses : ChoosesOffered step offers choices)
    (initial : ∀ t ∈ offers start, t.kind = .drone → s.field.Has t.id)
    (fresh : choices start = []) (run : Run step s start turns s' final) {t : Target}
    (mem : t ∈ offers final ∨ t ∈ choices final) (drone : t.kind = .drone) :
    ∃ f ∈ fields s turns, f.Has t.id := by
  -- The boards of the whole run are kept in view while it is taken turn by turn.
  refine run.invariant_on (Q := fun f => f ∈ fields s turns) (P := fun state => ∀ t,
    t ∈ offers state ∨ t ∈ choices state → t.kind = .drone → ∃ f ∈ fields s turns, f.Has t.id)
    ?_ (fun f h => h) ?_ t mem drone
  · intro f state event next listed known head t mem drone
    rcases mem with offered | chosen
    · rcases present head t offered drone with before | here
      · exact known t (.inl before) drone
      · exact ⟨f, listed, here⟩
    · rcases chooses head t chosen with before | before
      · exact known t (.inr before) drone
      · exact known t (.inl before) drone
  · intro t mem drone
    rcases mem with offered | chosen
    · exact ⟨s.field, List.mem_cons_self, initial t offered drone⟩
    · simp [fresh] at chosen

/-- How a flow deals with drones that vanish. When a turn completes the choices, a drone that
is named is missing from the boards of the turn exactly if it has vanished from the boards of
the run and the turn does not look for it; and picking an offered drone that the turn looks
for ends the flow exactly if the drone is missing. -/
structure Watches (step : Transition σ) (offers named : σ → List Target)
    (overlooks : σ → Target → Prop) (idle : σ) (s : Situation) (start : σ) : Prop where
  missing : ∀ turns s' state turn next, Run step s start turns s' state →
    step (s'.atTurn turn) state turn.event = .ok next → state ≠ next →
    ∀ t ∈ named next, t.kind = .drone →
      (¬(s'.atTurn turn).field.Holds t.id ↔
        overlooks state t ∧ Vanished (fields s turns) (s'.atTurn turn).field t.id)
  reset : ∀ turns s' state turn picked target, Run step s start turns s' state →
    turn.event = .select picked → pick? (offers state) picked = some target →
    target.kind = .drone → ¬overlooks state target →
      (step (s'.atTurn turn) state turn.event = .ok idle ↔
        ¬(s'.atTurn turn).field.Holds target.id)

end Transition

theorem Battlefield.Locates.holds {f : Battlefield} {t : Target} {elsewhere lane : Option LaneId}
    (located : f.Locates t elsewhere lane) (drone : t.kind = .drone) : f.Holds t.id := by
  rw [Locates, if_pos drone] at located
  obtain ⟨st, found, -⟩ := located
  exact holds_of_station? found

/-! ### Cards -/

def CardPhase.named : CardPhase → List Target
  | .complete _ payment target _ _ => (payment.map Payment.target).toList ++ target.toList
  | _ => []

/-- Picking something in a phase is without a look for a drone that the choices name. The
choice of a cost looks for the drone that pays. The choice of a target looks for that target
if a second one is asked for, but not for a drone that has paid. -/
def CardPhase.Overlooks : CardPhase → Target → Prop
  | .cost _ _, _ => False
  | .effect card payment _, t => card.secondary = none ∨ ∃ p, payment = some p ∧ p.target.id = t.id
  | _, _ => True

namespace CardFlow

variable {r : Referee} {s : Situation} {card : Card} {payment : Option Payment}
  {phase next : CardPhase} {target t : Target}

theorem named_subset_choices (phase : CardPhase) : phase.named ⊆ phase.choices := by
  cases phase with
  | complete => exact List.subset_append_left _ _
  | _ => exact List.nil_subset _

theorem holds_whenPaid_iff {id : String} (other : ∀ p, payment = some p → p.target.id ≠ id) :
    (s.whenPaid card payment).field.Holds id ↔ s.field.Holds id :=
  Situation.holds_afterPaying_iff (s := s.playedAs (.card card)) other

theorem holds_of_chooses (chooses : Chooses r s phase target next) (mem : t ∈ next.named)
    (drone : t.kind = .drone) (watched : ¬phase.Overlooks t) : s.field.Holds t.id := by
  cases chooses with
  | costGone => exact absurd mem List.not_mem_nil
  | costMoves => exact absurd mem List.not_mem_nil
  | primaryGone => exact absurd mem List.not_mem_nil
  | primary => exact absurd mem List.not_mem_nil
  | destination => exact absurd trivial watched
  | second => exact absurd trivial watched
  | only single => exact absurd (.inl single) watched
  | costPaid located _ enters =>
      have chosen := named_subset_choices next mem
      rw [choices_of_enters enters] at chosen
      obtain rfl : t = target := List.mem_singleton.1 chosen
      exact located.holds drone
  | @primaryAlone card payment _ _ _ _ _ located =>
      have other : ∀ p, payment = some p → p.target.id ≠ t.id :=
        fun p paid same => watched (.inr ⟨p, paid, same⟩)
      rcases List.mem_append.1 mem with cost | first
      · obtain ⟨p, paid, rfl⟩ := Option.map_eq_some_iff.1 (Option.mem_toList.1 cost)
        exact absurd rfl (other p paid)
      · obtain rfl : t = target := by simpa using first
        exact (holds_whenPaid_iff other).1 (located.holds drone)

theorem chooses_idle_of_absent (first : FirstOf phase.offers target)
    (drone : target.kind = .drone) (watched : ¬phase.Overlooks target)
    (absent : ¬s.field.Holds target.id) : Chooses r s phase target .idle := by
  cases phase with
  | cost => exact .costGone drone (Battlefield.station?_eq_none_iff.2 absent)
  | effect card payment offers =>
      cases double : card.secondary with
      | none => exact absurd (.inl double) watched
      | some rule =>
          have other : ∀ p, payment = some p → p.target.id ≠ target.id :=
            fun p paid same => watched (.inr ⟨p, paid, same⟩)
          refine .primaryGone double drone (Battlefield.station?_eq_none_iff.2 ?_)
          rw [holds_whenPaid_iff other]
          exact absent
  | _ => exact absurd trivial watched

theorem absent_of_chooses_idle (chooses : Chooses r s phase target .idle)
    (watched : ¬phase.Overlooks target) : ¬s.field.Holds target.id := by
  cases chooses with
  | costGone _ gone => exact Battlefield.station?_eq_none_iff.1 gone
  | costPaid _ _ enters => cases enters
  | destination enters => cases enters
  | @primaryGone card payment _ _ _ _ _ gone =>
      have other : ∀ p, payment = some p → p.target.id ≠ target.id :=
        fun p paid same => watched (.inr ⟨p, paid, same⟩)
      rw [← holds_whenPaid_iff other]
      exact Battlefield.station?_eq_none_iff.1 gone

/-- A pick that looks for its drone ends the flow exactly if the drone is missing. -/
theorem advance_eq_idle_iff {picked : Target} (found : pick? phase.offers picked = some target)
    (drone : target.kind = .drone) (watched : ¬phase.Overlooks target) :
    advance r s phase (.select picked) = .ok .idle ↔ ¬s.field.Holds target.id := by
  have first := firstOf_of_pick? found
  rw [advance_select_of_some found, choose_eq_ok_iff first.ne_nil]
  constructor
  · intro chooses
    exact absent_of_chooses_idle chooses watched
  · intro absent
    exact chooses_idle_of_absent first drone watched absent

theorem offersPresent : (advance r).OffersPresent CardPhase.offers := by
  intro s phase event next head t mem drone
  rcases advance_cases head with rfl | rfl | ⟨target, -, chooses⟩
  · exact absurd mem List.not_mem_nil
  · exact .inl mem
  · exact .inr ((presents_of_chooses chooses mem).has drone)

theorem watches_of_begin {first : CardPhase} (begins : begin r s card = .ok first) :
    (advance r).Watches CardPhase.offers CardPhase.named CardPhase.Overlooks .idle s first where
  missing := by
    intro turns s' phase turn next run head changes t mem drone
    have begins := begin_eq_ok_iff.1 begins
    constructor
    · intro absent
      have chosen := choosesOffered head t (named_subset_choices next mem)
      have known := Transition.has_of_run offersPresent choosesOffered
        (fun t mem drone => (presents_of_begins begins mem).has drone) (choices_of_begins begins)
        run chosen.symm drone
      refine ⟨?_, known, absent⟩
      rcases advance_cases head with rfl | rfl | ⟨target, -, chooses⟩
      · exact absurd mem List.not_mem_nil
      · exact absurd rfl changes
      · exact Classical.not_not.1 fun watched =>
          absent (holds_of_chooses chooses mem drone watched)
    · rintro ⟨-, -, absent⟩
      exact absent
  reset := by
    intro turns s' phase turn picked target run event found drone watched
    rw [event]
    exact advance_eq_idle_iff found drone watched

end CardFlow

/-! ### Moves -/

def MovePhase.named : MovePhase → List Target
  | .complete moved _ _ => moved
  | _ => []

def MovePhase.Overlooks : MovePhase → Target → Prop
  | .drone _, _ => False
  | _, _ => True

namespace MoveFlow

variable {rules : Rules} {s : Situation} {phase next : MovePhase} {target t : Target}

theorem named_subset_choices (phase : MovePhase) : phase.named ⊆ phase.choices := by
  cases phase with
  | complete => exact List.Subset.refl _
  | _ => exact List.nil_subset _

theorem overlooks_of_named (chooses : Chooses rules s phase target next) (mem : t ∈ next.named) :
    phase.Overlooks t := by
  cases chooses with
  | droneGone => exact absurd mem List.not_mem_nil
  | drone => exact absurd mem List.not_mem_nil
  | _ => trivial

/-- Picking the drone of a single move ends the flow exactly if the drone is missing. -/
theorem advance_eq_idle_iff {picked : Target} (found : pick? phase.offers picked = some target)
    (watched : ¬phase.Overlooks target) :
    advance rules s phase (.select picked) = .ok .idle ↔ ¬s.field.Holds target.id := by
  cases phase with
  | drone offers =>
      have first := firstOf_of_pick? found
      rw [advance_select_of_some found, choose_eq_ok_iff first.ne_nil,
        ← Battlefield.station?_eq_none_iff]
      constructor
      · rintro ⟨⟩
        assumption
      · exact .droneGone
  | _ => exact absurd trivial watched

theorem offersPresent : (advance rules).OffersPresent MovePhase.offers := by
  intro s phase event next head t mem drone
  rcases advance_cases head with rfl | rfl | ⟨lane, count, selected, offers, rfl, -, rfl⟩ |
    ⟨target, -, chooses⟩
  · exact absurd mem List.not_mem_nil
  · exact .inl mem
  · exact absurd drone (not_drone_of_toDestination mem)
  · exact (shows_of_chooses chooses mem drone).imp_right Battlefield.Shows.has

theorem watches_of_begin {kind : Kind} {first : MovePhase}
    (begins : begin rules s kind = .ok first) :
    (advance rules).Watches MovePhase.offers MovePhase.named MovePhase.Overlooks .idle s
      first where
  missing := by
    intro turns s' phase turn next run head changes t mem drone
    constructor
    · intro absent
      have chosen := choosesOffered head t (named_subset_choices next mem)
      have known := Transition.has_of_run offersPresent choosesOffered
        (fun t mem drone => (shows_of_begin begins mem drone).has) (choices_of_begin begins)
        run chosen.symm drone
      refine ⟨?_, known, absent⟩
      rcases advance_cases head with rfl | rfl | ⟨lane, count, selected, offers, rfl, -, rfl⟩ |
        ⟨target, -, chooses⟩
      · exact absurd mem List.not_mem_nil
      · exact absurd rfl changes
      · exact absurd mem List.not_mem_nil
      · exact overlooks_of_named chooses mem
    · rintro ⟨-, -, absent⟩
      exact absent
  reset := by
    intro turns s' phase turn picked target run event found drone watched
    rw [event]
    exact advance_eq_idle_iff found watched

end MoveFlow

/-! ### Both flows -/

/-- Both flows look for a drone when it is picked to pay, to be followed by a second target or
to be moved by itself, and never again. -/
theorem watches_of_flows (r : Referee) (rules : Rules) (s : Situation) :
    (∀ card first, CardFlow.begin r s card = .ok first →
      (CardFlow.advance r).Watches CardPhase.offers CardPhase.named CardPhase.Overlooks .idle s
        first) ∧
    (∀ kind first, MoveFlow.begin rules s kind = .ok first →
      (MoveFlow.advance rules).Watches MovePhase.offers MovePhase.named MovePhase.Overlooks .idle
        s first) := by
  constructor
  · intro card first begins
    exact CardFlow.watches_of_begin begins
  · intro kind first begins
    exact MoveFlow.watches_of_begin begins

/-! ### A scout that vanishes -/

def deserted : Battlefield where
  first := { player := "player1" }
  second := { player := "player2" }
  lanes := ["lane1", "lane2"]

theorem deserted_is_empty : ¬deserted.Holds "scout" :=
  Battlefield.station?_eq_none_iff.1 rfl

def lateTurn : Turn := { event := .select (.ofLane "lane2" "player1"), field := some deserted }

def withdrawingScout : CardPhase :=
  .costDestination withdrawal { target := scoutTarget, sourceLane := "lane1" }
    [.ofLane "lane2" "player1"]

def withdrawn : CardPhase :=
  .complete withdrawal
    (some { target := scoutTarget, sourceLane := "lane1", destinationLane := "lane2" })
    none none true

/-- The scout is picked, vanishes, and is still named as what paid and as what is moved. -/
theorem completes_with_vanished_scout :
    (CardFlow.begin {} patrol withdrawal = .ok (.cost withdrawal [scoutTarget]) ∧
      (CardFlow.advance {}).Run patrol (.cost withdrawal [scoutTarget])
        [.still (.select scoutTarget), lateTurn] (patrol.atTurn lateTurn) withdrawn ∧
      scoutTarget ∈ withdrawn.named ∧ ¬(patrol.atTurn lateTurn).field.Holds scoutTarget.id) ∧
    (MoveFlow.begin {} patrol .single = .ok (.drone [scoutTarget]) ∧
      (MoveFlow.advance {}).Run patrol (.drone [scoutTarget])
        [.still (.select scoutTarget), lateTurn] (patrol.atTurn lateTurn)
        (.complete [scoutTarget] "lane1" "lane2") ∧
      ¬(patrol.atTurn lateTurn).field.Holds scoutTarget.id) :=
  ⟨⟨rfl, .cons rfl (.cons rfl (.nil _ _)), by simp [withdrawn, CardPhase.named],
      deserted_is_empty⟩,
    rfl, .cons rfl (.cons rfl (.nil _ _)), deserted_is_empty⟩

/-- The scout that has paid and vanished is one that is not looked for; one that vanishes
before it is picked for a move ends the flow. -/
theorem watches_vanished_scout :
    (CardFlow.begin {} patrol withdrawal = .ok (.cost withdrawal [scoutTarget]) ∧
      (CardFlow.advance {}).Run patrol (.cost withdrawal [scoutTarget])
        [.still (.select scoutTarget)] patrol withdrawingScout ∧
      CardFlow.advance {} (patrol.atTurn lateTurn) withdrawingScout lateTurn.event =
        .ok withdrawn ∧
      (¬deserted.Holds "scout" ↔ withdrawingScout.Overlooks scoutTarget ∧
        Vanished [patrol.field] deserted "scout")) ∧
    (MoveFlow.begin {} patrol .single = .ok (.drone [scoutTarget]) ∧
      pick? [scoutTarget] scoutTarget = some scoutTarget ∧
      (MoveFlow.advance {} { patrol with field := deserted } (.drone [scoutTarget])
        (.select scoutTarget) = .ok .idle ↔ ¬deserted.Holds "scout")) := by
  obtain ⟨cards, moves⟩ := watches_of_flows {} {} patrol
  have paying : CardFlow.begin {} patrol withdrawal = .ok (.cost withdrawal [scoutTarget]) := rfl
  have moving : MoveFlow.begin {} patrol .single = .ok (.drone [scoutTarget]) := rfl
  have run : (CardFlow.advance {}).Run patrol (.cost withdrawal [scoutTarget])
      [.still (.select scoutTarget)] patrol withdrawingScout := .cons rfl (.nil _ _)
  have head : CardFlow.advance {} (patrol.atTurn lateTurn) withdrawingScout lateTurn.event =
      .ok withdrawn := rfl
  refine ⟨⟨paying, run, head, ?_⟩, moving, rfl, ?_⟩
  · exact (cards _ _ paying).missing _ _ _ lateTurn _ run head (by nofun) scoutTarget
      (by simp [withdrawn, CardPhase.named]) rfl
  · exact (moves _ _ moving).reset [] patrol _ ⟨.select scoutTarget, some deserted⟩ scoutTarget
      scoutTarget (.nil _ _) rfl rfl rfl id

end DroneTactics
