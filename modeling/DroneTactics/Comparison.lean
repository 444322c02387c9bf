import DroneTactics.Document.Value

/-!
The comparisons that card data may ask for. A comparison looks at two things
only: whether the sides are equal, and which comes first if they have an order.
Sides without an order, such as a number and a text, satisfy no inequality.
-/

namespace DroneTactics

inductive Comparison where
  | lt
  | lte
  | eq
  | gt
  | gte
  deriving DecidableEq, Repr

namespace Comparison

def name : Comparison → String
  | .lt => "LT"
  | .lte => "LTE"
  | .eq => "EQ"
  | .gt => "GT"
  | .gte => "GTE"

def ofName? : String → Option Comparison
  | "LT" => some .lt
  | "LTE" => some .lte
  | "EQ" => some .eq
  | "GT" => some .gt
  | "GTE" => some .gte
  | _ => none

def holds (c : Comparison) (same : Bool) (order : Option Ordering) : Bool :=
  match c with
  | .lt => order = some .lt
  | .lte => order = some .lt || order = some .eq
  | .eq => same
  | .gt => order = some .gt
  | .gte => order = some .gt || order = some .eq

@[simp] theorem ofName?_name (c : Comparison) : ofName? c.name = some c := by
  cases c <;> rfl

end Comparison

def Value.compare (c : Comparison) (left right : Value) : Bool :=
  c.holds (left.same right) (left.order? right)

/-- Whether the comparison a word stands for holds of two values; no other word does. -/
def Value.compareByName (word : String) (left right : Value) : Bool :=
  match Comparison.ofName? word with
  | some c => left.compare c right
  | none => false

end DroneTactics
