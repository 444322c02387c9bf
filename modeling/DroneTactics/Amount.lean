import DroneTactics.Rules

/-!
The amounts that are reckoned with. Integers are exact; as soon as a fraction takes part
the sum is in double precision and rounded after every step. Amounts are compared by size.
-/

namespace DroneTactics

inductive Amount where
  | whole (n : Int)
  | fraction (x : Binary64)
  deriving DecidableEq, Repr

namespace Amount

/-- The amount that a value states; a truth value counts as one or zero. -/
def ofValue : Value → Except Fault Amount
  | .int n => .ok (.whole n)
  | .bool b => .ok (.whole (if b then 1 else 0))
  | .float x => .ok (.fraction x)
  | _ => .error .notANumber

def toBinary64 : Amount → Except Fault Binary64
  | .whole n =>
    match Binary64.ofInt? n with
    | some x => .ok x
    | none => .error .outOfRange
  | .fraction x => .ok x

def add : Amount → Amount → Except Fault Amount
  | .whole m, .whole n => .ok (.whole (m + n))
  | a, b => do
    let x ← a.toBinary64
    let y ← b.toBinary64
    pure (.fraction (x.add y))

def toAtom : Amount → Atom
  | .whole n => .int n
  | .fraction x => .float x

def isBelow (a b : Amount) : Bool := a.toAtom.order? b.toAtom = some .lt

/-- Whether an amount is not above another one; what is no number is not compared. -/
def isAtMost (a b : Amount) : Bool :=
  a.toAtom.order? b.toAtom = some .lt || a.toAtom.order? b.toAtom = some .eq

end Amount

end DroneTactics
