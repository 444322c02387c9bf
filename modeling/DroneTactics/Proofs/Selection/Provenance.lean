import DroneTactics.Proofs.Selection.CardStep
import DroneTactics.Proofs.Selection.MoveStep
import DroneTactics.Proofs.Selection.Run
import DroneTactics.Proofs.Targeting.Mobility
import Mathlib.Data.List.Forall2

/-!
What is chosen has been offered. A flow looks at the key of a pick and takes the offered
target in its place, so whatever a pick says about its lane, the thing itself or its holder
never gets into the flow, and a key that is not offered changes nothing. This is so along
every run, whatever boards its turns bring.
-/

namespace DroneTactics

/-! ### Picks with the same key -/

/-- Events are the same up to what a pick says besides its key. -/
inductive Event.Agrees : Event → Event → Prop
  | select {t u : Target} (same : t.key = u.key) : Agrees (.select t) (.select u)
  | confirm : Agrees .confirm .confirm
  | cancel : Agrees .cancel .cancel

structure Turn.Agrees (a b : Turn) : Prop where
  field : a.field = b.field
  event : a.event.Agrees b.event

theorem Turn.Agrees.atTurn {a b : Turn} (agree : a.Agrees b) (s : Situation) :
    s.atTurn a = s.atTurn b := by
  rw [Situation.atTurn, Situation.atTurn, agree.field]

namespace Transition

variable {σ : Type} {step : Transition σ} {offers choices : σ → List Target} {s s' : Situation}
  {start state final : σ} {turns : List Turn}

def Passes (step : Transition σ) (s : Situation) (start : σ) (turns : List Turn) (state : σ) :
    Prop :=
  ∃ before turn after s', turns = before ++ turn :: after ∧ Run step s start before s' state

theorem Passes.last {turn : Turn} (run : Run step s start turns s' state) :
    Passes step s start (turns ++ [turn]) state :=
  ⟨turns, turn, [], s', rfl, run⟩

theorem Passes.later {turn : Turn} (passes : Passes step s start turns state) :
    Passes step s start (turns ++ [turn]) state := by
  obtain ⟨before, middle, after, s', rfl, run⟩ := passes
  exact ⟨before, middle, after ++ [turn], s', by simp, run⟩

def ByKey (step : Transition σ) : Prop :=
  ∀ s state t u, t.key = u.key → step s state (.select t) = step s state (.select u)

theorem ByKey.step_eq (byKey : ByKey step) {a b : Event} (agree : a.Agrees b) :
    step s state a = step s state b := by
  cases agree with
  | select same => exact byKey s state _ _ same
  | confirm => rfl
  | cancel => rfl

theorem ByKey.history_eq (byKey : ByKey step) {turns turns' : List Turn}
    (agree : List.Forall₂ Turn.Agrees turns turns') :
    step.history s state turns = step.history s state turns' := by
  induction agree generalizing s state with
  | nil => rfl
  | @cons a b rest rest' here later ih =>
      have head : step (s.atTurn a) state a.event = step (s.atTurn b) state b.event := by
        rw [here.atTurn s]
        exact byKey.step_eq here.event
      rw [history, history, head]
      -- The answers to the rest are the same after either outcome of the first turn.
      split
      · rw [here.atTurn s, ih]
      · rw [here.atTurn s, ih]

def ChoosesOffered (step : Transition σ) (offers choices : σ → List Target) : Prop :=
  ∀ {s state event next}, step s state event = .ok next →
    ∀ t ∈ choices next, t ∈ choices state ∨ t ∈ offers state

/-- Along a run from a state without choices, every choice has been on offer before. -/
theorem ChoosesOffered.passes (chooses : ChoosesOffered step offers choices)
    (fresh : choices start = []) (run : Run step s start turns s' final) :
    ∀ t ∈ choices final, ∃ state, Passes step s start turns state ∧ t ∈ offers state := by
  refine run.snoc_induction (motive := fun turns _ last => ∀ t ∈ choices last,
    ∃ state, Passes step s start turns state ∧ t ∈ offers state) ?_ ?_
  · simp [fresh]
  · intro turns s' state turn next run known head t mem
    rcases chooses head t mem with before | offered
    · obtain ⟨earlier, passes, mem⟩ := known t before
      exact ⟨earlier, passes.later, mem⟩
    · exact ⟨state, .last run, offered⟩

/-- A selection cannot be forged: picks count by their keys, what a run chooses is what an
earlier state of it offered, and a key that is not on offer changes nothing. -/
structure Unforgeable (step : Transition σ) (offers choices : σ → List Target) (s : Situation)
    (start : σ) : Prop where
  byKey : ∀ turns turns', List.Forall₂ Turn.Agrees turns turns' →
    step.history s start turns = step.history s start turns'
  offered : ∀ turns s' last, Run step s start turns s' last → ∀ t ∈ choices last,
    ∃ state, Passes step s start turns state ∧ t ∈ offers state
  ignored : ∀ turns s' state field picked, Run step s start turns s' state →
    (∀ t ∈ offers state, t.key ≠ picked.key) →
    step (s'.atTurn ⟨.select picked, field⟩) state (.select picked) = .ok state

end Transition

/-! ### Cards -/

def CardPhase.choices : CardPhase → List Target
  | .idle => []
  | .cost _ _ => []
  | .costDestination _ payment _ => [payment.target]
  | .effect _ payment _ => (payment.map Payment.target).toList
  | .secondary _ primary payment _ => (payment.map Payment.target).toList ++ [primary.target]
  | .complete _ payment target second _ =>
      (payment.map Payment.target).toList ++ target.toList ++ second.toList

namespace CardFlow

variable {r : Referee} {s : Situation} {card : Card} {payment : Option Payment}
  {phase next : CardPhase} {target : Target}

theorem byKey : (advance r).ByKey := by
  intro s state t u same
  simp only [advance, pick?_congr same]

theorem advance_of_not_offered {picked : Target}
    (absent : ∀ t ∈ phase.offers, t.key ≠ picked.key) :
    advance r s phase (.select picked) = .ok phase :=
  advance_select_of_none (pick?_eq_none_iff.2 absent)

theorem choices_of_enters (enters : Enters r s card payment next) :
    next.choices = (payment.map Payment.target).toList := by
  cases enters <;> simp [CardPhase.choices]

theorem choices_of_begins (begins : Begins r s card next) : next.choices = [] := by
  cases begins with
  | unpayable => rfl
  | cost => rfl
  | pointless => rfl
  | free _ enters => exact choices_of_enters enters

theorem choices_of_chooses (chooses : Chooses r s phase target next) {t : Target}
    (mem : t ∈ next.choices) : t ∈ phase.choices ∨ t = target := by
  cases chooses with
  | costGone => exact absurd mem List.not_mem_nil
  | costMoves => exact .inr (List.mem_singleton.1 mem)
  | costPaid _ _ enters =>
      rw [choices_of_enters enters] at mem
      exact .inr (List.mem_singleton.1 mem)
  | destination enters =>
      rw [choices_of_enters enters] at mem
      exact .inl mem
  | only => simpa [CardPhase.choices] using mem
  | primaryGone => exact absurd mem List.not_mem_nil
  | primaryAlone => simpa [CardPhase.choices] using mem
  | primary => simpa [CardPhase.choices] using mem
  | second => simpa [CardPhase.choices, or_assoc] using mem

theorem choosesOffered : (advance r).ChoosesOffered CardPhase.offers CardPhase.choices := by
  intro s phase event next head t mem
  rcases advance_cases head with rfl | rfl | ⟨target, first, chooses⟩
  · exact absurd mem List.not_mem_nil
  · exact .inl mem
  · rcases choices_of_chooses chooses mem with before | rfl
    · exact .inl before
    · exact .inr first.mem

theorem unforgeable_of_begin {first : CardPhase} (begins : begin r s card = .ok first) :
    (advance r).Unforgeable CardPhase.offers CardPhase.choices s first where
  byKey _ _ := byKey.history_eq
  offered _ _ _ := choosesOffered.passes (choices_of_begins (begin_eq_ok_iff.1 begins))
  ignored _ _ _ _ _ _ := advance_of_not_offered

end CardFlow

/-! ### Moves -/

def MovePhase.choices : MovePhase → List Target
  | .destination moved _ _ => [moved]
  | .drones _ _ selected _ => selected
  | .destinationLane _ selected _ => selected
  | .complete moved _ _ => moved
  | .idle => []
  | .drone _ => []
  | .sourceLane _ _ => []

namespace MoveFlow

variable {rules : Rules} {s : Situation} {phase next : MovePhase} {target : Target}

theorem byKey : (advance rules).ByKey := by
  intro s state t u same
  simp only [advance, pick?_congr same]

theorem advance_of_not_offered {picked : Target}
    (absent : ∀ t ∈ phase.offers, t.key ≠ picked.key) :
    advance rules s phase (.select picked) = .ok phase :=
  advance_select_of_none (pick?_eq_none_iff.2 absent)

theorem choices_of_begin {kind : Kind} (begins : begin rules s kind = .ok next) :
    next.choices = [] := by
  cases kind with
  | single =>
      obtain ⟨-, -, begins⟩ := bind_eq_ok_iff.1 begins
      obtain rfl := pure_eq_ok_iff.1 begins
      rfl
  | group =>
      obtain rfl := pure_eq_ok_iff.1 begins
      rfl

theorem choices_of_chooses (chooses : Chooses rules s phase target next) {t : Target}
    (mem : t ∈ next.choices) : t ∈ phase.choices ∨ t = target := by
  cases chooses with
  | droneGone => exact absurd mem List.not_mem_nil
  | drone => exact .inr (List.mem_singleton.1 mem)
  | destination => exact .inl mem
  | sourceLane => exact absurd mem List.not_mem_nil
  | dropped => exact .inl (List.mem_of_mem_filter mem)
  | full => exact .inl mem
  | last =>
      rcases List.mem_append.1 mem with before | picked
      · exact .inl before
      · exact .inr (List.mem_singleton.1 picked)
  | added =>
      rcases List.mem_append.1 mem with before | picked
      · exact .inl before
      · exact .inr (List.mem_singleton.1 picked)
  | destinationLane => exact .inl mem

theorem choosesOffered : (advance rules).ChoosesOffered MovePhase.offers MovePhase.choices := by
  intro s phase event next head t mem
  rcases advance_cases head with rfl | rfl | ⟨lane, count, selected, offers, rfl, -, rfl⟩ |
    ⟨target, first, chooses⟩
  · exact absurd mem List.not_mem_nil
  · exact .inl mem
  · exact .inl mem
  · rcases choices_of_chooses chooses mem with before | rfl
    · exact .inl before
    · exact .inr first.mem

theorem unforgeable_of_begin {kind : Kind} {first : MovePhase}
    (begins : begin rules s kind = .ok first) :
    (advance rules).Unforgeable MovePhase.offers MovePhase.choices s first where
  byKey _ _ := byKey.history_eq
  offered _ _ _ := choosesOffered.passes (choices_of_begin begins)
  ignored _ _ _ _ _ _ := advance_of_not_offered

end MoveFlow

/-! ### Both flows -/

/-- No selection can be forged, neither for a card nor for a move. -/
theorem unforgeable_of_flows (r : Referee) (rules : Rules) (s : Situation) :
    (∀ card first, CardFlow.begin r s card = .ok first →
      (CardFlow.advance r).Unforgeable CardPhase.offers CardPhase.choices s first) ∧
    (∀ kind first, MoveFlow.begin rules s kind = .ok first →
      (MoveFlow.advance rules).Unforgeable MovePhase.offers MovePhase.choices s first) := by
  constructor
  · intro card first begins
    exact CardFlow.unforgeable_of_begin begins
  · intro kind first begins
    exact MoveFlow.unforgeable_of_begin begins

def forgedScout : Target := { scoutTarget with lane := some "lane2", entity := none }

/-- The scout is picked by a forged description of it, and the flows remember the scout that
they offered; a scout of the other player is not on offer and is ignored. -/
theorem forged_scout_is_scout :
    CardFlow.begin {} patrol withdrawal = .ok (.cost withdrawal [scoutTarget]) ∧
    (CardFlow.advance {}).history patrol (.cost withdrawal [scoutTarget])
        [.still (.select forgedScout)] =
      (CardFlow.advance {}).history patrol (.cost withdrawal [scoutTarget])
        [.still (.select scoutTarget)] ∧
    (MoveFlow.begin {} patrol .single = .ok (.drone [scoutTarget]) ∧
      (MoveFlow.advance {}).Run patrol (.drone [scoutTarget]) [.still (.select forgedScout)]
        patrol (.destination scoutTarget "lane1" [.ofLane "lane2" "player1"]) ∧
      ∃ state, (MoveFlow.advance {}).Passes patrol (.drone [scoutTarget])
        [.still (.select forgedScout)] state ∧ scoutTarget ∈ state.offers) ∧
    (scoutTarget.key ≠ { scoutTarget with owner := "player2" }.key ∧
      MoveFlow.advance {} patrol (.drone [scoutTarget])
        (.select { scoutTarget with owner := "player2" }) = .ok (.drone [scoutTarget])) := by
  obtain ⟨cards, moves⟩ := unforgeable_of_flows {} {} patrol
  have paying : CardFlow.begin {} patrol withdrawal = .ok (.cost withdrawal [scoutTarget]) := rfl
  have moving : MoveFlow.begin {} patrol .single = .ok (.drone [scoutTarget]) := rfl
  have agree : List.Forall₂ Turn.Agrees [.still (.select forgedScout)]
      [.still (.select scoutTarget)] := .cons ⟨rfl, .select rfl⟩ .nil
  have run : (MoveFlow.advance {}).Run patrol (.drone [scoutTarget])
      [.still (.select forgedScout)] patrol
      (.destination scoutTarget "lane1" [.ofLane "lane2" "player1"]) := .cons rfl (.nil _ _)
  have other : scoutTarget.key ≠ { scoutTarget with owner := "player2" }.key := by decide
  refine ⟨paying, (cards _ _ paying).byKey _ _ agree, ⟨moving, run, ?_⟩, other, ?_⟩
  · exact (moves _ _ moving).offered _ _ _ run scoutTarget (by simp [MovePhase.choices])
  · exact (moves _ _ moving).ignored [] patrol _ none _ (.nil _ _)
      (by simpa [MovePhase.offers] using other)

end DroneTactics
