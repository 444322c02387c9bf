import DroneTactics.Number.Binary64
import DroneTactics.Text.Digits

/-!
Numerals as people write them. Blanks around a numeral mean nothing, its digits may be
those of any script, and one sign may stand in front. In base two, eight and sixteen the
mark of the base may stand before the digits. A fraction has digits on one side of its
point at least and may have an exponent; two words name the infinite one and the one
that is no number.
-/

namespace DroneTactics.Text.Numeral

def signed : List Char → Option Char × List Char
  | '+' :: cs => (some '+', cs)
  | '-' :: cs => (some '-', cs)
  | cs => (none, cs)

/-- A numeral without the blanks around it and in common digits. -/
def plain (cs : List Char) : List Char := (trim cs).map withCommonDigit

/-! ### Integers -/

def mark? : Nat → Option Char
  | 2 => some 'b'
  | 8 => some 'o'
  | 16 => some 'x'
  | _ => none

def withoutMark (base : Nat) : List Char → List Char
  | '0' :: c :: ds => if mark? base = some c.toLower then ds else '0' :: c :: ds
  | ds => ds

/-- The number that digits of a base spell; there must be one, and in base ten not more
than the longest numeral has. -/
def digits? (base : Nat) (ds : List Char) : Option Nat :=
  if ds.isEmpty || (base = 10 && longest < ds.length) then none else inBase? base ds

def withSign (sign : Option Char) (n : Nat) : Int := if sign = some '-' then -(n : Int) else n

def integer? (base : Nat) (cs : List Char) : Option Int :=
  let (sign, ds) := signed (plain cs)
  (digits? base (withoutMark base ds)).map (withSign sign)

/-! ### Fractions -/

def exponent? : List Char → Option Int
  | [] => some 0
  | e :: rest =>
    let (sign, ds) := signed rest
    if e = 'e' && !ds.isEmpty then (inBase? 10 ds).map (withSign sign) else none

/-- The number that digits with a point and an exponent spell. -/
def decimal? (cs : List Char) : Option Binary64 :=
  let whole := cs.takeWhile Char.isDigit
  let rest := cs.dropWhile Char.isDigit
  let (places, rest) :=
    if rest.head? = some '.' then
      (rest.tail.takeWhile Char.isDigit, rest.tail.dropWhile Char.isDigit)
    else ([], rest)
  if whole.isEmpty && places.isEmpty then none
  else
    (inBase? 10 (whole ++ places)).bind fun n =>
      (exponent? rest).map fun e => .ofDecimal false n (e - places.length)

def size? (cs : List Char) : Option Binary64 :=
  if cs = "inf".toList || cs = "infinity".toList then some (.infinite false)
  else if cs = "nan".toList then some .nan
  else decimal? cs

def fraction? (cs : List Char) : Option Binary64 :=
  let (sign, cs) := signed ((plain cs).map Char.toLower)
  (size? cs).map fun x => if sign = some '-' then x.neg else x

end DroneTactics.Text.Numeral
