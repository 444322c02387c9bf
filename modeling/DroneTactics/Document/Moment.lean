/-!
Dates and times of day as data files state them. A date alone is a day of the calendar; a
time of day may say how far its clock is ahead of the common one. Two moments whose clocks
are known are the same if they are the same instant; a date and a time of day never are.
-/

namespace DroneTactics

structure TimeOfDay where
  hour : Nat
  minute : Nat
  second : Nat
  microsecond : Nat
  /-- How many minutes the clock is ahead of the common one, if that is known. -/
  ahead : Option Int
  deriving DecidableEq, Repr

/-- A date, with or without a time of day. -/
structure Moment where
  year : Nat
  month : Nat
  day : Nat
  time : Option TimeOfDay
  deriving DecidableEq, Repr

/-! ### The calendar -/

def isLeapYear (year : Nat) : Bool := year % 4 = 0 && (year % 100 ≠ 0 || year % 400 = 0)

def monthLengths (year : Nat) : List Nat :=
  [31, if isLeapYear year then 29 else 28, 31, 30, 31, 30, 31, 31, 30, 31, 30, 31]

/-- Whether the clock shows such a time; it is less than a day ahead or behind. -/
def TimeOfDay.valid (t : TimeOfDay) : Bool :=
  t.hour < 24 && t.minute < 60 && t.second < 60 && t.ahead.all fun m => m.natAbs < 24 * 60

namespace Moment

def valid (m : Moment) : Bool :=
  1 ≤ m.year && m.year ≤ 9999 && 1 ≤ m.month
    && (match (monthLengths m.year)[m.month - 1]? with
      | some days => 1 ≤ m.day && m.day ≤ days
      | none => false)
    && m.time.all TimeOfDay.valid

/-- The number of a day, counted from the first one of the calendar. -/
def dayNumber (m : Moment) : Nat :=
  let y := m.year - 1
  let before := ((monthLengths m.year).take (m.month - 1)).foldl (· + ·) 0
  365 * y + y / 4 - y / 100 + y / 400 + before + m.day

/-- The microseconds since the calendar began, by the common clock if the moment's own one
is known. -/
def instant (m : Moment) : Int :=
  match m.time with
  | none => m.dayNumber
  | some t =>
    let minutes : Int := 60 * (24 * m.dayNumber + t.hour) + t.minute - t.ahead.getD 0
    1000000 * (60 * minutes + t.second) + t.microsecond

/-- How a moment is given: by its date, by a clock that is not known, or by a known one. -/
def precision (m : Moment) : Nat :=
  match m.time with
  | none => 0
  | some t => if t.ahead.isSome then 2 else 1

def same (m n : Moment) : Bool := m.precision = n.precision && m.instant = n.instant

def order? (m n : Moment) : Option Ordering :=
  if m.precision = n.precision then
    some (if m.instant < n.instant then .lt else if m.instant = n.instant then .eq else .gt)
  else none

end Moment

/-! ### Texts -/

def padded (width n : Nat) : String :=
  let digits := toString n
  String.ofList (List.replicate (width - digits.length) '0') ++ digits

/-- How far a clock is ahead, as it stands after a time. -/
def aheadText (minutes : Int) : String :=
  let n := minutes.natAbs
  (if minutes < 0 then "-" else "+") ++ padded 2 (n / 60) ++ ":" ++ padded 2 (n % 60)

/-- How far a clock is ahead, as it stands inside a listed value. -/
def aheadLiteral (minutes : Int) : String :=
  if minutes = 0 then "datetime.timezone.utc"
  else
    let span :=
      if minutes < 0 then "days=-1, seconds=" ++ toString (24 * 60 * 60 + 60 * minutes)
      else "seconds=" ++ toString (60 * minutes)
    "datetime.timezone(datetime.timedelta(" ++ span ++ "))"

namespace Moment

def text (m : Moment) : String :=
  let date := padded 4 m.year ++ "-" ++ padded 2 m.month ++ "-" ++ padded 2 m.day
  match m.time with
  | none => date
  | some t =>
    date ++ " " ++ padded 2 t.hour ++ ":" ++ padded 2 t.minute ++ ":" ++ padded 2 t.second
      ++ (if t.microsecond = 0 then "" else "." ++ padded 6 t.microsecond)
      ++ (t.ahead.map aheadText).getD ""

/-- The text of a moment inside a list or a map. Seconds of zero are left out, and so are
microseconds. -/
def literal (m : Moment) : String :=
  let date := ", ".intercalate ([m.year, m.month, m.day].map toString)
  match m.time with
  | none => "datetime.date(" ++ date ++ ")"
  | some t =>
    let rest :=
      if t.microsecond ≠ 0 then [t.hour, t.minute, t.second, t.microsecond]
      else if t.second ≠ 0 then [t.hour, t.minute, t.second]
      else [t.hour, t.minute]
    "datetime.datetime(" ++ date ++ ", " ++ ", ".intercalate (rest.map toString)
      ++ ((t.ahead.map fun n => ", tzinfo=" ++ aheadLiteral n).getD "") ++ ")"

end Moment

end DroneTactics
