/-!
Halves of surrogate pairs. A numeric escape may name a half that stands alone, which is no
character. A text spells it with two characters: the last character there is, as a mark, and
one for private use. The mark itself is spelled twice, so every character and every half has
a spelling of its own, and is ordered and written by its own number.
-/

namespace DroneTactics.Text

def mark : Char := Char.ofNat 0x10ffff

def firstUnit : Nat := 0xd800

def isHalfUnit (unit : Nat) : Bool := firstUnit ≤ unit && unit < 0xe000

/-- The first of the characters that stand for halves after the mark. -/
def firstHalf : Nat := 0xe000

/-- The number of a mark after which nothing is spelled; it comes after all characters. -/
def looseMark : Nat := 0x110000

/-- The spelling of the character or half with a number. -/
def spelled (code : Nat) : List Char :=
  if code = mark.toNat then [mark, mark]
  else if code = looseMark then [mark]
  else if isHalfUnit code then [mark, Char.ofNat (firstHalf + (code - firstUnit))]
  else [Char.ofNat code]

/-- The number that a character after the mark spells with it. -/
def marked? (c : Char) : Option Nat :=
  if c = mark then some mark.toNat
  else if firstHalf ≤ c.toNat && c.toNat < firstHalf + 0x800 then
    some (c.toNat - firstHalf + firstUnit)
  else none

def codes : List Char → List Nat
  | [] => []
  | [c] => [if c = mark then looseMark else c.toNat]
  | c :: d :: cs =>
    if c = mark then
      match marked? d with
      | some code => code :: codes cs
      | none => looseMark :: codes (d :: cs)
    else c.toNat :: codes (d :: cs)

/-- The numbers of the characters and halves of a text. -/
def codePoints (s : String) : List Nat := codes s.toList

def ofCodePoints (ns : List Nat) : String := String.ofList (ns.flatMap spelled)

def spelling (cs : List Char) : List Char := cs.flatMap fun c => spelled c.toNat

def holdsHalf (s : String) : Bool := (codePoints s).any isHalfUnit

/-! ### Order -/

/-- The order of lists by their first difference; the beginning of a list comes before it. -/
def isBelow : List Nat → List Nat → Bool
  | _, [] => false
  | [], _ :: _ => true
  | m :: ms, n :: ns => m < n || (m = n && isBelow ms ns)

def precedes (s t : String) : Bool := isBelow (codePoints s) (codePoints t)

end DroneTactics.Text
