import DroneTactics.Selection.Event

/-!
Runs of a selection. A run is read from its first turn, but what it reaches is decided
by its last one, so the induction over a run that the invariants need takes turns off
at the end. On boards that stay as they are a run is a list of events.
-/

namespace DroneTactics

def Turn.still (event : Event) : Turn := { event }

namespace Transition

variable {σ : Type} {step : Transition σ} {s s' s'' : Situation}
  {start state next last : σ} {turns before after : List Turn} {events : List Event}

theorem Run.append (first : Run step s start before s' state)
    (second : Run step s' state after s'' last) :
    Run step s start (before ++ after) s'' last := by
  induction first with
  | nil => exact second
  | cons head tail ih => exact .cons head (ih second)

theorem Run.snoc {turn : Turn} (run : Run step s start turns s' state)
    (head : step (s'.atTurn turn) state turn.event = .ok next) :
    Run step s start (turns ++ [turn]) (s'.atTurn turn) next :=
  run.append (.cons head (.nil _ _))

/-- Induction over a run from its last turn. -/
theorem Run.snoc_induction {motive : List Turn → Situation → σ → Prop}
    (nil : motive [] s start)
    (snoc : ∀ {turns s' state turn next}, Run step s start turns s' state →
      motive turns s' state → step (s'.atTurn turn) state turn.event = .ok next →
      motive (turns ++ [turn]) (s'.atTurn turn) next)
    (run : Run step s start turns s' last) : motive turns s' last := by
  -- The run so far is carried along, and the rest is taken turn by turn.
  have extend : ∀ {before s₁ state}, Run step s start before s₁ state →
      motive before s₁ state → ∀ {after s₂ final}, Run step s₁ state after s₂ final →
      motive (before ++ after) s₂ final := by
    intro before s₁ state done known after s₂ final rest
    induction rest generalizing before with
    | nil => simpa using known
    | cons head tail ih =>
        have known' := snoc done known head
        simpa using ih (done.snoc head) known'
  simpa using extend (.nil s start) nil run

/-- What holds at the start and is kept by every event holds after every run. -/
theorem Run.invariant {P : σ → Prop}
    (keeps : ∀ {s state event next}, P state → step s state event = .ok next → P next)
    (run : Run step s start turns s' last) (initial : P start) : P last := by
  induction run with
  | nil => exact initial
  | cons head tail ih => exact ih (keeps initial head)

/-! ### Boards that change -/

/-- The boards of a run: those at its start and those that its turns bring. -/
def fields (s : Situation) (turns : List Turn) : List Battlefield :=
  s.field :: turns.filterMap Turn.field

theorem fields_subset_cons {turn : Turn} :
    fields (s.atTurn turn) turns ⊆ fields s (turn :: turns) := by
  intro f mem
  cases brought : turn.field with
  | none => simpa [fields, Situation.atTurn, brought] using mem
  | some g =>
      rw [fields, List.filterMap_cons, brought]
      exact List.mem_cons_of_mem _ (by simpa [fields, Situation.atTurn, brought] using mem)

theorem fields_subset_append : fields s before ⊆ fields s (before ++ after) := by
  intro f mem
  rw [fields, List.filterMap_append, ← List.cons_append]
  exact List.mem_append_left _ mem

/-- A run ends on one of its boards. -/
theorem Run.field_mem (run : Run step s start turns s' last) : s'.field ∈ fields s turns := by
  induction run with
  | nil => exact List.mem_cons_self
  | cons head tail ih => exact fields_subset_cons ih

/-- What holds at the start and is kept by every event on boards with a property holds
after every run on such boards. -/
theorem Run.invariant_on {Q : Battlefield → Prop} {P : σ → Prop}
    (keeps : ∀ {f state event next}, Q f → P state →
      step { s with field := f } state event = .ok next → P next)
    (boards : ∀ f ∈ fields s turns, Q f) (run : Run step s start turns s' last)
    (initial : P start) : P last := by
  induction run with
  | nil => exact initial
  | @cons s s' state next last turn rest head tail ih =>
      have here : Q (s.atTurn turn).field := boards _ (fields_subset_cons List.mem_cons_self)
      have later : ∀ f ∈ fields (s.atTurn turn) rest, Q f := by
        intro f mem
        exact boards f (fields_subset_cons mem)
      exact ih keeps later (keeps here initial head)

/-! ### Boards that stay as they are -/

/-- A list of events leads from one state to another while the boards stay as they are. -/
def Leads (step : Transition σ) (s : Situation) (start : σ) (events : List Event)
    (last : σ) : Prop :=
  Run step s start (events.map .still) s last

@[simp] theorem leads_nil_iff : Leads step s start [] last ↔ start = last := by
  constructor
  · intro run
    cases run
    rfl
  · rintro rfl
    exact .nil _ _

theorem leads_cons_iff {event : Event} :
    Leads step s start (event :: events) last ↔
      ∃ next, step s start event = .ok next ∧ Leads step s next events last := by
  constructor
  · intro run
    cases run with
    | cons head tail => exact ⟨_, head, tail⟩
  · rintro ⟨next, head, tail⟩
    have head : step (s.atTurn (.still event)) start event = .ok next := head
    exact Run.cons head tail

theorem Leads.cons {event : Event} (head : step s start event = .ok next)
    (tail : Leads step s next events last) : Leads step s start (event :: events) last :=
  leads_cons_iff.2 ⟨next, head, tail⟩

theorem Leads.append {events' : List Event} (first : Leads step s start events state)
    (second : Leads step s state events' last) :
    Leads step s start (events ++ events') last := by
  rw [Leads, List.map_append]
  exact Run.append first second

theorem Leads.snoc {event : Event} (first : Leads step s start events state)
    (head : step s state event = .ok next) : Leads step s start (events ++ [event]) next :=
  first.append (.cons head (leads_nil_iff.2 rfl))

/-- What holds at the start and is kept by every event on the same boards holds after
every list of events. -/
theorem Leads.invariant {P : σ → Prop}
    (keeps : ∀ {state event next}, P state → step s state event = .ok next → P next)
    (run : Leads step s start events last) (initial : P start) : P last := by
  induction events generalizing start with
  | nil =>
      obtain rfl := leads_nil_iff.1 run
      exact initial
  | cons event events ih =>
      obtain ⟨next, head, tail⟩ := leads_cons_iff.1 run
      exact ih tail (keeps initial head)

/-! ### Turns that change the state -/

/-- A run, and how many of its turns lead to another state than the one before. -/
inductive Changes (step : Transition σ) : Situation → σ → List Turn → Nat → Situation → σ → Prop
  | nil (s : Situation) (state : σ) : Changes step s state [] 0 s state
  | stay {s s' : Situation} {state last : σ} {turn : Turn} {rest : List Turn} {n : Nat} :
      step (s.atTurn turn) state turn.event = .ok state →
      Changes step (s.atTurn turn) state rest n s' last →
      Changes step s state (turn :: rest) n s' last
  | change {s s' : Situation} {state next last : σ} {turn : Turn} {rest : List Turn} {n : Nat} :
      step (s.atTurn turn) state turn.event = .ok next → next ≠ state →
      Changes step (s.atTurn turn) next rest n s' last →
      Changes step s state (turn :: rest) (n + 1) s' last

theorem run_iff_exists_changes :
    Run step s start turns s' last ↔ ∃ n, Changes step s start turns n s' last := by
  constructor
  · intro run
    induction run with
    | nil s state => exact ⟨0, .nil s state⟩
    | @cons s s' state next last turn rest head tail ih =>
        obtain ⟨n, changes⟩ := ih
        by_cases same : next = state
        · subst same
          exact ⟨n, .stay head changes⟩
        · exact ⟨n + 1, .change head same changes⟩
  · rintro ⟨n, changes⟩
    induction changes with
    | nil => exact .nil _ _
    | stay head _ ih => exact .cons head ih
    | change head _ _ ih => exact .cons head ih

/-- If every change of the state raises a number, a run raises it by as much as it has
changes. -/
theorem Changes.add_le {rank : σ → Nat}
    (rises : ∀ {s state event next}, step s state event = .ok next → next ≠ state →
      rank state < rank next)
    {n : Nat} (run : Changes step s start turns n s' last) : n + rank start ≤ rank last := by
  induction run with
  | nil => omega
  | stay _ _ ih => exact ih
  | change head other _ ih =>
      have := rises head other
      omega

/-! ### Where a state comes from -/

/-- A turn of a run brings in its last state, from another state and in a situation
with a property. -/
def Entered (step : Transition σ) (s : Situation) (start : σ) (turns : List Turn) (last : σ)
    (P : Situation → Prop) : Prop :=
  ∃ before turn after s' state, turns = before ++ turn :: after ∧
    Run step s start before s' state ∧ state ≠ last ∧
    step (s'.atTurn turn) state turn.event = .ok last ∧ P (s'.atTurn turn)

theorem Entered.of_snoc {turn : Turn} {P : Situation → Prop}
    (run : Run step s start turns s' state)
    (head : step (s'.atTurn turn) state turn.event = .ok last) (changes : state ≠ last)
    (holds : P (s'.atTurn turn)) : Entered step s start (turns ++ [turn]) last P :=
  ⟨turns, turn, [], s', state, rfl, run, changes, head, holds⟩

/-- A turn that changes nothing leaves it as it was how the state was brought in. -/
theorem Entered.later {turn : Turn} {P : Situation → Prop}
    (entered : Entered step s start turns last P) :
    Entered step s start (turns ++ [turn]) last P := by
  obtain ⟨before, middle, after, s', state, rfl, run, changes, head, holds⟩ := entered
  exact ⟨before, middle, after ++ [turn], s', state, by simp, run, changes, head, holds⟩

end Transition

end DroneTactics
