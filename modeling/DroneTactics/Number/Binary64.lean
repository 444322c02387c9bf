/-!
Double-precision numbers as exact data: a sign, a mantissa and a power of two.
A decimal is read by rounding the exact quotient once, to nearest and ties to
the even mantissa, so a number has one representation and two numbers are
compared by the rationals they stand for.
-/

namespace DroneTactics

/-- A double-precision number. A finite one stands for its mantissa times a
power of two; the mantissa has 53 bits unless the exponent is the least one. -/
inductive Binary64 where
  | finite (negative : Bool) (mantissa : Nat) (exponent : Int)
  | infinite (negative : Bool)
  | nan
  deriving DecidableEq, Repr

namespace Binary64

/-- The exponent of the smallest spacing between two numbers. -/
def leastExponent : Int := -1074

/-- The exponent of the largest spacing; a mantissa beyond it is infinite. -/
def greatestExponent : Int := 971

def precision : Int := 53

/-- A power of a base. A negative exponent gives one, so a fraction is scaled by a power
of either sign when one side is multiplied by it and the other by its inverse. -/
def power (base : Nat) (exponent : Int) : Nat := Nat.pow base exponent.toNat

/-- The quotient rounded to the nearest natural number, a half to the even one. -/
def roundDiv (n d : Nat) : Nat :=
  let q := n / d
  let r := n % d
  if 2 * r < d then q
  else if d < 2 * r then q + 1
  else if q % 2 = 0 then q else q + 1

/-- The largest power of two that is at most `n / d`, for positive `n` and `d`. -/
def log2Fraction (n d : Nat) : Int :=
  let k : Int := (n.log2 : Int) - d.log2
  if d * power 2 k ≤ n * power 2 (-k) then k else k - 1

def ofFraction (negative : Bool) (n d : Nat) : Binary64 :=
  if n = 0 then .finite negative 0 leastExponent
  else
    let e := max leastExponent (log2Fraction n d - (precision - 1))
    let m := roundDiv (n * power 2 (-e)) (d * power 2 e)
    let (m, e) := if m = power 2 precision then (power 2 (precision - 1), e + 1) else (m, e)
    if greatestExponent < e then .infinite negative else .finite negative m e

def ofRat (q : Rat) : Binary64 :=
  ofFraction (q.num < 0) q.num.natAbs q.den

/-- The number nearest to `digits * 10 ^ exponent`. Powers of ten so large or so
small that the answer is infinite or zero are not computed. -/
def ofDecimal (negative : Bool) (digits : Nat) (exponent : Int) : Binary64 :=
  if digits = 0 then ofFraction negative 0 1
  else if 400 < exponent then .infinite negative
  else if exponent < -(400 + (digits.log2 : Int)) then ofFraction negative 0 1
  else ofFraction negative (digits * power 10 exponent) (power 10 (-exponent))

def toRat? : Binary64 → Option Rat
  | .finite negative m e =>
    let magnitude := mkRat (m * power 2 e) (power 2 (-e))
    some (if negative then -magnitude else magnitude)
  | .infinite _ => none
  | .nan => none

def neg : Binary64 → Binary64
  | .finite negative m e => .finite (!negative) m e
  | .infinite negative => .infinite (!negative)
  | .nan => .nan

def ofInt? (n : Int) : Option Binary64 :=
  match ofFraction (n < 0) n.natAbs 1 with
  | .finite negative m e => some (.finite negative m e)
  | _ => none

/-- Whether a number is below zero, or the zero of that side. -/
def isNegative : Binary64 → Bool
  | .finite negative _ _ => negative
  | .infinite negative => negative
  | .nan => false

/-- The sum, rounded once. It is the negative zero only if both numbers are. -/
def add (x y : Binary64) : Binary64 :=
  match x, y with
  | .nan, _ => .nan
  | _, .nan => .nan
  | .infinite a, .infinite b => if a = b then .infinite a else .nan
  | .infinite a, _ => .infinite a
  | _, .infinite b => .infinite b
  | x, y =>
    match x.toRat?, y.toRat? with
    | some p, some q =>
      if p + q = 0 then ofFraction (x.isNegative && y.isNegative) 0 1 else ofRat (p + q)
    | _, _ => .nan

/-- The product, rounded once; nothing times the infinite is no number. -/
def mul (x y : Binary64) : Binary64 :=
  let negative := x.isNegative != y.isNegative
  match x, y with
  | .nan, _ => .nan
  | _, .nan => .nan
  | .finite _ m _, .infinite _ => if m = 0 then .nan else .infinite negative
  | .infinite _, .finite _ m _ => if m = 0 then .nan else .infinite negative
  | .infinite _, .infinite _ => .infinite negative
  | x, y =>
    match x.toRat?, y.toRat? with
    | some p, some q => ofFraction negative (p * q).num.natAbs (p * q).den
    | _, _ => .nan

/-- The integer a finite number is equal to, if it has no fractional part. -/
def toInt? (x : Binary64) : Option Int :=
  match x.toRat? with
  | some q => if q.den = 1 then some q.num else none
  | none => none

end Binary64

end DroneTactics
