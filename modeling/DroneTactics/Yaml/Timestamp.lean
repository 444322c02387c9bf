import DroneTactics.Document.Moment
import DroneTactics.Text.Digits
import DroneTactics.Text.Numeral
import DroneTactics.Yaml.Cursor

/-!
Moments as YAML writes them: a date, then perhaps a time of day after a letter or blanks,
with a fraction of its second and how far the clock is ahead. What is read is not yet
held against the calendar.
-/

namespace DroneTactics.Yaml.Timestamp

def number? (least most : Nat) (cs : List Char) : Option (Nat × List Char) :=
  let ds := cs.takeWhile Char.isDigit
  if least ≤ ds.length && ds.length ≤ most then
    some (Text.decimal ds, cs.dropWhile Char.isDigit)
  else none

def after? (c : Char) : List Char → Option (List Char)
  | [] => none
  | d :: cs => if d = c then some cs else none

def lastMinutes? : List Char → Option Nat
  | [] => some 0
  | cs =>
    ((after? ':' cs).bind (number? 2 2)).bind fun (minutes, rest) =>
      if rest.isEmpty then some minutes else none

/-- How far a clock is ahead, as the end of a text says it; the end may say nothing. -/
def ahead? : List Char → Option (Option Int)
  | [] => some none
  | cs =>
    match cs.dropWhile isBlank with
    | ['Z'] => some (some 0)
    | sign :: rest =>
      if sign = '+' || sign = '-' then do
        let (hours, rest) ← number? 1 2 rest
        let minutes ← lastMinutes? rest
        some (some (Text.Numeral.withSign sign (60 * hours + minutes)))
      else none
    | [] => none

/-- The first six digits of a fraction, of which zeros may be left out at the end. -/
def millionths (places : List Char) : Nat :=
  Text.decimal ((places ++ List.replicate 6 '0').take 6)

def timeOfDay? (cs : List Char) : Option TimeOfDay := do
  let (hour, cs) ← number? 1 2 cs
  let (minute, cs) ← (after? ':' cs).bind (number? 2 2)
  let (second, cs) ← (after? ':' cs).bind (number? 2 2)
  let hasPoint := cs.head? = some '.'
  let places := if hasPoint then cs.tail.takeWhile Char.isDigit else []
  let ahead ← ahead? (if hasPoint then cs.tail.dropWhile Char.isDigit else cs)
  some { hour, minute, second, microsecond := millionths places, ahead }

/-- What a text says after a date: nothing, or a time of day after a letter or blanks. -/
def afterDate? : List Char → Option (Option TimeOfDay)
  | [] => some none
  | c :: cs =>
    if c = 'T' || c = 't' then (timeOfDay? cs).map some
    else if isBlank c then (timeOfDay? (cs.dropWhile isBlank)).map some
    else none

def read? (cs : List Char) : Option Moment := do
  let (year, cs) ← number? 4 4 cs
  let (month, cs) ← (after? '-' cs).bind (number? 1 2)
  let (day, cs) ← (after? '-' cs).bind (number? 1 2)
  let time ← afterDate? cs
  some { year, month, day, time }

/-- Whether a text shows that it states a moment: a date on its own is written in full. -/
def isShown (cs : List Char) : Bool :=
  (read? cs).any fun m => m.time.isSome || cs.length = 10

end DroneTactics.Yaml.Timestamp
