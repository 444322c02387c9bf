import DroneTactics.Rules
import DroneTactics.Targeting.Situation

/-!
What happens while a player makes choices: something is picked, a group is confirmed,
or everything is called off. Boards may change between two events, so each turn can
bring new ones. A turn that has no answer leaves the state as it was.
-/

namespace DroneTactics

inductive Event where
  | select (target : Target)
  | confirm
  | cancel
  deriving DecidableEq, Repr

/-- An event, and the boards from this event on if they have changed. -/
structure Turn where
  event : Event
  field : Option Battlefield := none

def Situation.atTurn (s : Situation) (turn : Turn) : Situation :=
  { s with field := turn.field.getD s.field }

abbrev Transition (σ : Type) := Situation → σ → Event → Except Fault σ

namespace Transition

variable {σ : Type}

def history (step : Transition σ) : Situation → σ → List Turn → List (Except Fault σ)
  | _, _, [] => []
  | s, state, turn :: rest =>
    let s := s.atTurn turn
    match step s state turn.event with
    | .ok next => .ok next :: history step s next rest
    | .error fault => .error fault :: history step s state rest

/-- The situation and the state that a list of turns leads to, when every turn of it
has an answer. -/
inductive Run (step : Transition σ) : Situation → σ → List Turn → Situation → σ → Prop
  | nil (s : Situation) (state : σ) : Run step s state [] s state
  | cons {s s' : Situation} {state next last : σ} {turn : Turn} {rest : List Turn} :
      step (s.atTurn turn) state turn.event = .ok next →
      Run step (s.atTurn turn) next rest s' last →
      Run step s state (turn :: rest) s' last

end Transition

end DroneTactics
