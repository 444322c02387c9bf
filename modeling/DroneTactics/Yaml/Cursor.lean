/-!
Places in a YAML text. A cursor is the text that is left, with the line and column of
its first character. Loops over a text go from place to place; a loop that would stay
where it is has no result, so every loop ends.
-/

namespace DroneTactics.Yaml

def isBreak (c : Char) : Bool :=
  c = '\n' || c = '\x85' || c = '\u2028' || c = '\u2029'

def isBlank (c : Char) : Bool := c = ' ' || c = '\t'

def endsField (c : Option Char) : Bool := c.all fun ch => ch = ' ' || isBreak ch

def endsWord (c : Option Char) : Bool := c.all fun ch => isBlank ch || isBreak ch

def isFlowMark (c : Char) : Bool :=
  c = ',' || c = '[' || c = ']' || c = '\x7b' || c = '\x7d'

def isNameChar (c : Char) : Bool := c.isAlphanum || c = '-' || c = '_'

structure Cursor where
  rest : List Char
  /-- How many characters are left. -/
  remaining : Nat
  line : Nat := 0
  column : Nat := 0

namespace Cursor

def start (text : List Char) : Cursor := { rest := text, remaining := text.length }

def peek (c : Cursor) : Option Char := c.rest.head?

def peekAt (c : Cursor) (n : Nat) : Option Char := c.rest[n]?

/-- The place after one character. A byte order mark takes no column. -/
def next (c : Cursor) : Cursor :=
  match c.rest with
  | [] => c
  | ch :: rest =>
    if isBreak ch then { rest, remaining := c.remaining - 1, line := c.line + 1, column := 0 }
    else
      { c with
        rest
        remaining := c.remaining - 1
        column := if ch = '\ufeff' then c.column else c.column + 1 }

def skip (c : Cursor) : Nat → Cursor
  | 0 => c
  | n + 1 => c.next.skip n

/-- The characters from a place on that satisfy a test, and the place after them. -/
def span (c : Cursor) (p : Char → Bool) : List Char × Cursor :=
  let run := c.rest.takeWhile p
  (run, c.skip run.length)

def skipWhile (c : Cursor) (p : Char → Bool) : Cursor := (c.span p).2

/-- The end of a line as it is kept in a text, and the next line. -/
def lineBreak? (c : Cursor) : Option (Char × Cursor) :=
  match c.peek with
  | some ch =>
    if isBreak ch then some (if ch = '\x85' then '\n' else ch, c.next) else none
  | none => none

/-- Three dots or hyphens that stand alone. -/
def atDocumentMark (c : Cursor) : Bool :=
  (c.rest.take 3 = ['-', '-', '-'] || c.rest.take 3 = ['.', '.', '.']) && endsWord (c.peekAt 3)

end Cursor

/-- One turn of a loop: go on from a later place, or stop. -/
inductive Pass (σ ρ : Type) where
  | again (c : Cursor) (state : σ)
  | done (result : ρ)

def Cursor.loop {σ ρ : Type} (turn : Cursor → σ → Option (Pass σ ρ)) (c : Cursor) (state : σ) :
    Option ρ :=
  match turn c state with
  | none => none
  | some (.done result) => some result
  | some (.again c' state') => if c'.remaining < c.remaining then c'.loop turn state' else none
termination_by c.remaining

end DroneTactics.Yaml
