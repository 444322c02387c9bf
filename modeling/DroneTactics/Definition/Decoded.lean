import DroneTactics.Document.Value

/-!
Reading raw data with every complaint collected. A result is either the thing read
or a list of problems, each with its place; putting two results together keeps the
problems of both, the first one's first.
-/

namespace DroneTactics

/-- One step into raw data: by name, or by position or number. -/
inductive Step where
  | name (s : String)
  | number (n : Int)
  deriving DecidableEq, Repr

def Step.text : Step → String
  | .name s => Text.quoted s
  | .number n => toString n

/-- The place of a problem, outermost step first. -/
def placeText : List Step → String
  | [] => "()"
  | [step] => "(" ++ step.text ++ ",)"
  | steps => "(" ++ ", ".intercalate (steps.map Step.text) ++ ")"

inductive Reason where
  | missing
  | notText
  | notUnicode
  | notInteger
  | fractional
  | unreadableInteger
  | oversizedInteger
  | notFinite
  | notList
  | notMap
  | notModel (model : String)
  | notWord (word : String)
  | unknownField
  | keyNotText
  deriving DecidableEq, Repr

def Reason.message : Reason → String
  | .missing => "Field required"
  | .notText => "Input should be a valid string"
  | .notUnicode =>
    "Input should be a valid string, unable to parse raw data as a unicode string"
  | .notInteger => "Input should be a valid integer"
  | .fractional => "Input should be a valid integer, got a number with a fractional part"
  | .unreadableInteger => "Input should be a valid integer, unable to parse string as an integer"
  | .oversizedInteger => "Unable to parse input string as an integer, exceeded maximum size"
  | .notFinite => "Input should be a finite number"
  | .notList => "Input should be a valid list"
  | .notMap => "Input should be a valid dictionary"
  | .notModel model => "Input should be a valid dictionary or instance of " ++ model
  | .notWord word => "Input should be " ++ Text.quoted word
  | .unknownField => "Extra inputs are not permitted"
  | .keyNotText => "Keys should be strings"

structure Problem where
  place : List Step
  reason : Reason
  deriving DecidableEq, Repr

def Problem.message (p : Problem) : String :=
  placeText p.place ++ ": " ++ p.reason.message

/-- Something read from raw data, or the problems that forbid it. -/
inductive Decoded (α : Type) where
  | ok (a : α)
  | failed (problems : List Problem)
  deriving Repr

namespace Decoded

variable {α β : Type}

def problems : Decoded α → List Problem
  | .ok _ => []
  | .failed ps => ps

def fail (reason : Reason) : Decoded α := .failed [⟨[], reason⟩]

def map (f : α → β) : Decoded α → Decoded β
  | .ok a => .ok (f a)
  | .failed ps => .failed ps

/-- A function read and its argument read, with the problems of both. -/
def seq (f : Decoded (α → β)) (x : Unit → Decoded α) : Decoded β :=
  match f, x () with
  | .ok f, .ok a => .ok (f a)
  | .ok _, .failed ps => .failed ps
  | .failed ps, .ok _ => .failed ps
  | .failed ps, .failed qs => .failed (ps ++ qs)

instance : Applicative Decoded where
  pure := .ok
  map := map
  seq := seq

def within (step : Step) : Decoded α → Decoded α
  | .ok a => .ok a
  | .failed ps => .failed (ps.map fun p => { p with place := step :: p.place })

/-- The result with further problems, which forbid it. -/
def also (x : Decoded α) (more : List Problem) : Decoded α :=
  match more with
  | [] => x
  | _ => .failed (x.problems ++ more)

/-- The results of a list, from position `i` on. -/
def traverse (read : Value → Decoded α) (i : Nat) : List Value → Decoded (List α)
  | [] => .ok []
  | v :: vs => List.cons <$> (read v).within (.number i) <*> traverse read (i + 1) vs

end Decoded

end DroneTactics
