import DroneTactics.Number.Binary64

/-!
The decimal text of a double-precision number: the fewest digits that read back
as the same number, and of those the decimal nearest to it. A number owns the
interval of reals that round to it. For one digit, two digits and so on, the two
neighbours of the number on that decimal grid are tested against the interval in
exact arithmetic, and the first grid with a hit gives the digits.
-/

namespace DroneTactics.Binary64

/-- The reals that round to a positive number, over a common denominator. The
ends belong to the interval when `closed` holds. -/
structure Basin where
  low : Nat
  centre : Nat
  high : Nat
  denominator : Nat
  closed : Bool

/-- The interval of a positive finite number. Below a power of two the spacing
halves, so the lower half gap does too; the ends round to an even mantissa. -/
def basin (m : Nat) (e : Int) : Basin :=
  let scale := power 2 (e - 2)
  let below := if m = power 2 (precision - 1) ∧ leastExponent < e then 1 else 2
  { low := (4 * m - below) * scale
    centre := 4 * m * scale
    high := (4 * m + 2) * scale
    denominator := power 2 (2 - e)
    closed := m % 2 = 0 }

structure Decimal where
  digits : Nat
  exponent : Int
  deriving DecidableEq, Repr

def Basin.magnitude (b : Basin) : Int :=
  let bits : Int := (b.centre.log2 : Int) - b.denominator.log2
  let guess : Int := bits * 30103 / 100000 - 1
  let above (p : Int) : Bool := b.centre * power 10 (-p) < b.denominator * power 10 p
  ((List.range 4).map fun (i : Nat) => guess + i).find? above |>.getD (guess + 4)

/-- The better of the centre's two neighbours among the multiples of a power of
ten, if one of them lies in the interval. -/
def Basin.onGrid (b : Basin) (exponent : Int) : Option Decimal :=
  let up := power 10 (-exponent)
  let unit := b.denominator * power 10 exponent
  let inside (c : Nat) : Bool :=
    let point := c * unit
    if b.closed then b.low * up ≤ point && point ≤ b.high * up
    else b.low * up < point && point < b.high * up
  let lower := b.centre * up / unit
  let upper := lower + 1
  let lowerGap := b.centre * up - lower * unit
  let upperGap := upper * unit - b.centre * up
  match inside lower, inside upper with
  | true, true =>
    let takeLower := lowerGap < upperGap || (lowerGap == upperGap && lower % 2 == 0)
    some ⟨if takeLower then lower else upper, exponent⟩
  | true, false => some ⟨lower, exponent⟩
  | false, true => some ⟨upper, exponent⟩
  | false, false => none

/-- The shortest decimal in an interval. Seventeen digits always suffice. -/
def Basin.shortest (b : Basin) : Decimal :=
  let p := b.magnitude
  ((List.range 17).findSome? fun (n : Nat) => b.onGrid (p - (n + 1))).getD
    ⟨b.centre * power 10 (17 - p) / (b.denominator * power 10 (p - 17)), p - 17⟩

/-- Digits without trailing zeros, and where the decimal point stands: a point
position of `1` is after the first digit. -/
def Decimal.normalized (d : Decimal) : List Char × Int :=
  let ds := (toString d.digits).toList
  ((ds.reverse.dropWhile (· = '0')).reverse, d.exponent + ds.length)

/-- Positional notation from `0.0001` up to sixteen integer digits, always with a
fractional part; beyond that one digit, the rest and a signed exponent of at
least two digits. -/
def layout (ds : List Char) (point : Int) : List Char :=
  if -4 < point ∧ point ≤ 16 then
    if point ≤ 0 then '0' :: '.' :: (List.replicate (-point).toNat '0' ++ ds)
    else if (ds.length : Int) ≤ point then
      ds ++ List.replicate (point.toNat - ds.length) '0' ++ ['.', '0']
    else ds.take point.toNat ++ '.' :: ds.drop point.toNat
  else
    let e := point - 1
    let digits := (toString e.natAbs).toList
    let padded := if digits.length < 2 then '0' :: digits else digits
    let fraction := if ds.length ≤ 1 then [] else '.' :: ds.drop 1
    ds.take 1 ++ fraction ++ 'e' :: (if e < 0 then '-' else '+') :: padded

def text : Binary64 → String
  | .finite negative m e =>
    let sign := if negative then "-" else ""
    if m = 0 then sign ++ "0.0"
    else
      let (ds, point) := (basin m e).shortest.normalized
      sign ++ String.ofList (layout ds point)
  | .infinite negative => if negative then "-inf" else "inf"
  | .nan => "nan"

end DroneTactics.Binary64
