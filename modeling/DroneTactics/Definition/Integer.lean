import DroneTactics.Definition.Decoded
import DroneTactics.Text.Digits

/-!
Integers in card data. Besides plain integers a truth value, a fraction without
fractional part and a text that spells an integer, also as bytes, are accepted. A text
is read as it stands first. When that fails it is tidied once and read again: blanks
around it, a plus, zeros in front, a point with nothing but zeros after it and single
underscores are taken away. A minus stays in front of what is left of the rest. Among the
zeros in front underscores do not count, and a minus may stand after them.
-/

namespace DroneTactics.Decoded

inductive Spelled where
  | integer (n : Int)
  /-- More digits than are read. -/
  | oversized
  | nothing
  deriving DecidableEq, Repr

/-- The integer that a text spells as it stands: a minus and digits without a zero in
front. -/
def spelledPlainly (cs : List Char) : Spelled :=
  let negative := cs.head? = some '-'
  let ds := if negative then cs.tail else cs
  let run := ds.takeWhile Char.isDigit
  if ds.head? = some '0' then (if ds.length = 1 then .integer 0 else .nothing)
  else if run.isEmpty then .nothing
  else if Text.longest < run.length then .oversized
  else if run.length < ds.length then .nothing
  else .integer (if negative then -(Text.decimal run : Int) else Text.decimal run)

/-- What follows zeros in front, of which `zero` is the last character: a digit, a minus,
or a point with that character before it. When there is nothing else the last character
is all that is left. -/
def afterZeros? (zero : Char) : List Char → Option (List Char)
  | [] => some [zero]
  | c :: rest =>
    if c = '0' || c = '_' then afterZeros? c rest
    else if c.isDigit || c = '-' then some (c :: rest)
    else if c = '.' then some (zero :: c :: rest)
    else none

/-- A number without the zeros in front; it begins with a digit or a minus. -/
def withoutZeros? : List Char → Option (List Char)
  | [] => none
  | c :: rest =>
    if c = '0' then afterZeros? c rest
    else if c.isDigit || c = '-' then some (c :: rest)
    else none

/-- A number without a point that only zeros follow. -/
def withoutPlaces (cs : List Char) : List Char :=
  let places := cs.dropWhile (· ≠ '.')
  if places.tail.all (· = '0') && 1 < places.length then cs.takeWhile (· ≠ '.') else cs

def hasGap : List Char → Bool
  | c :: d :: rest => (c = '_' && d = '_') || hasGap (d :: rest)
  | _ => false

/-- A number without the underscores inside it, if they stand one by one. -/
def withoutUnderscores (cs : List Char) : List Char :=
  if cs.head? = some '_' || cs.getLast? = some '_' || hasGap cs then cs
  else cs.filter (· ≠ '_')

def withoutPlus? : List Char → Option (List Char)
  | '+' :: '-' :: _ => none
  | '+' :: rest => some rest
  | cs => some cs

/-- A number without its sign tidied into a plain one. -/
def tidiedSize? (cs : List Char) : Option (List Char) :=
  (withoutZeros? cs).map fun cs => withoutUnderscores (withoutPlaces cs)

def tidied? (cs : List Char) : Option (List Char) :=
  (withoutPlus? (Text.trim cs)).bind fun
    | '-' :: cs => (tidiedSize? cs).map ('-' :: ·)
    | cs => tidiedSize? cs

def spelledInteger (s : String) : Spelled :=
  match spelledPlainly s.toList with
  | .nothing => ((tidied? s.toList).map spelledPlainly).getD .nothing
  | spelled => spelled

def integerInText (s : String) : Decoded Int :=
  match spelledInteger s with
  | .integer n => .ok n
  | .oversized => fail .oversizedInteger
  | .nothing => fail .unreadableInteger

/-- Fractions from this size on are not taken for integers. -/
def integerLimit : Int := 0x8000000000000000

def integer : Value → Decoded Int
  | .int n => .ok n
  | .bool b => .ok (if b then 1 else 0)
  | .float x =>
    match x.toRat? with
    | none => fail .notFinite
    | some q =>
      if q.den ≠ 1 then fail .fractional
      else if q.num.natAbs < integerLimit.natAbs then .ok q.num
      else fail .oversizedInteger
  | .str s => if Text.holdsHalf s then fail .notUnicode else integerInText s
  | .atom (.bytes bs) =>
    match Text.decoded? bs with
    | some s => integerInText s
    | none => fail .unreadableInteger
  | _ => fail .notInteger

end DroneTactics.Decoded
