import DroneTactics.Document.Moment
import DroneTactics.Number.Shortest
import DroneTactics.Text.Quoted

/-!
Raw data as a data file or a request holds it, before anything is known about its
meaning: atoms, lists and maps. The keys of a map are atoms, listed in the order
in which they were first written. Bytes, moments and values with a wording of their own
come from data files only.

Two values that are written differently can still be the same key or compare
equal: truth values count as the numbers one and zero, and an integer equals the
fraction with the same value. A value has no text if an integer in it is too long to
be written.
-/

namespace DroneTactics

inductive Atom where
  | null
  | bool (b : Bool)
  | int (n : Int)
  | float (x : Binary64)
  | str (s : String)
  | bytes (bs : List UInt8)
  | moment (m : Moment)
  deriving DecidableEq, Repr

/-- What a list or a map is that is not worded like one. -/
inductive Form where
  | set
  | pair
  /-- A collection inside itself, of which only as much is there as anyone reads. -/
  | knot
  deriving DecidableEq, Repr

/-- A value: an atom, a list, or a map from atoms. -/
inductive Value where
  | atom (a : Atom)
  | list (items : List Value)
  | map (entries : List (Atom × Value))
  /-- A list or a map with a wording of its own, if it has any. -/
  | worded (form : Form) (wording : Option String) (content : Value)
  deriving Repr

namespace Value

@[match_pattern] abbrev null : Value := .atom .null

@[match_pattern] abbrev bool (b : Bool) : Value := .atom (.bool b)

@[match_pattern] abbrev int (n : Int) : Value := .atom (.int n)

@[match_pattern] abbrev float (x : Binary64) : Value := .atom (.float x)

@[match_pattern] abbrev str (s : String) : Value := .atom (.str s)

instance : Inhabited Value := ⟨.null⟩

/-- The list or map itself, whatever its wording. -/
def bare : Value → Value
  | .worded _ _ content => content
  | v => v

end Value

/-- The size of a number: a rational, or beyond every rational. -/
inductive Magnitude where
  | belowAll
  | rational (q : Rat)
  | aboveAll
  deriving DecidableEq

def Magnitude.order : Magnitude → Magnitude → Ordering
  | .rational p, .rational q => if p < q then .lt else if p = q then .eq else .gt
  | .belowAll, .belowAll => .eq
  | .aboveAll, .aboveAll => .eq
  | .belowAll, _ => .lt
  | _, .belowAll => .gt
  | .aboveAll, _ => .gt
  | _, .aboveAll => .lt

namespace Atom

def magnitude? : Atom → Option Magnitude
  | .bool b => some (.rational (if b then 1 else 0))
  | .int n => some (.rational n)
  | .float (.infinite negative) => some (if negative then .belowAll else .aboveAll)
  | .float x => x.toRat?.map .rational
  | .null => none
  | .str _ => none
  | .bytes _ => none
  | .moment _ => none

/-- Equality of atoms: numbers by size, moments by instant, other atoms by what they are. -/
def same (a b : Atom) : Bool :=
  match a, b with
  | .null, .null => true
  | .str s, .str t => s = t
  | .bytes s, .bytes t => s = t
  | .moment m, .moment n => m.same n
  | a, b =>
    match a.magnitude?, b.magnitude? with
    | some p, some q => p = q
    | _, _ => false

/-- Whether two atoms are one key of a map: they are equal, or are what equals nothing
and is written in the same way. -/
def sameKey (a b : Atom) : Bool := a.same b || a = b

/-- The order of two atoms, if they have one: numbers by size, texts by code point, bytes
from the first on, moments by instant. -/
def order? (a b : Atom) : Option Ordering :=
  match a, b with
  | .str s, .str t => some (if Text.precedes s t then .lt else if s = t then .eq else .gt)
  | .bytes s, .bytes t =>
    some (if Text.isBelow (s.map UInt8.toNat) (t.map UInt8.toNat) then .lt
      else if s = t then .eq else .gt)
  | .moment m, .moment n => m.order? n
  | a, b =>
    match a.magnitude?, b.magnitude? with
    | some p, some q => some (p.order q)
    | _, _ => none

def literal? : Atom → Option String
  | .null => some "None"
  | .bool b => some (if b then "True" else "False")
  | .int n => Text.ofInt? n
  | .float x => some x.text
  | .str s => some (Text.quoted s)
  | .bytes bs => some (Text.quotedBytes bs)
  | .moment m => some m.literal

def text? : Atom → Option String
  | .str s => some s
  | .moment m => some m.text
  | a => a.literal?

def isBlank : Atom → Bool
  | .null => true
  | .bool b => !b
  | .int n => n = 0
  | .float (.finite _ m _) => m = 0
  | .float _ => false
  | .str s => s.isEmpty
  | .bytes bs => bs.isEmpty
  | .moment _ => false

end Atom

abbrev Entries := List (Atom × Value)

namespace Entries

def get? (entries : Entries) (key : Atom) : Option Value :=
  (entries.find? fun entry => entry.1.sameKey key).map Prod.snd

def named? (entries : Entries) (name : String) : Option Value :=
  entries.get? (.str name)

/-- The entries with a key given a value: a known key keeps its place. -/
def insert {α : Type} : List (Atom × α) → Atom → α → List (Atom × α)
  | [], key, value => [(key, value)]
  | (k, v) :: rest, key, value =>
    if k.sameKey key then (k, value) :: rest else (k, v) :: insert rest key value

/-- The entries in the order of their first writing, each with its last value. -/
def ofList {α : Type} (pairs : List (Atom × α)) : List (Atom × α) :=
  pairs.foldl (fun entries pair => insert entries pair.1 pair.2) []

end Entries

namespace Value

mutual

/-- Equality of values: lists item by item, maps by what each key stands for. -/
def same : Value → Value → Bool
  | .atom a, .atom b => a.same b
  | .list xs, .list ys => sameItems xs ys
  | .map es, .map fs => es.length == fs.length && sameEntries es fs
  | _, _ => false

def sameItems : List Value → List Value → Bool
  | [], [] => true
  | x :: xs, y :: ys => x.same y && sameItems xs ys
  | _, _ => false

def sameEntries : List (Atom × Value) → Entries → Bool
  | [], _ => true
  | (k, v) :: es, fs =>
    (match fs.get? k with
      | some w => v.same w
      | none => false) && sameEntries es fs

end

mutual

/-- The order of two values, if they have one. A list is ordered by its first
item that differs; when none differs the shorter list comes first. -/
def order? : Value → Value → Option Ordering
  | .atom a, .atom b => a.order? b
  | .list xs, .list ys => orderItems? xs ys
  | _, _ => none

def orderItems? : List Value → List Value → Option Ordering
  | [], [] => some .eq
  | [], _ :: _ => some .lt
  | _ :: _, [] => some .gt
  | x :: xs, y :: ys => if x.same y then orderItems? xs ys else x.order? y

end

mutual

def literal? : Value → Option String
  | .atom a => a.literal?
  | .list xs => (literalItems? xs).map fun parts => "[" ++ ", ".intercalate parts ++ "]"
  | .map es => (literalEntries? es).map fun parts => "\x7b" ++ ", ".intercalate parts ++ "\x7d"
  | .worded _ wording _ => wording

def literalItems? : List Value → Option (List String)
  | [] => some []
  | x :: xs => do
    let part ← x.literal?
    let parts ← literalItems? xs
    pure (part :: parts)

def literalEntries? : List (Atom × Value) → Option (List String)
  | [] => some []
  | (k, v) :: es => do
    let key ← k.literal?
    let part ← v.literal?
    let parts ← literalEntries? es
    pure ((key ++ ": " ++ part) :: parts)

end

def text? : Value → Option String
  | .atom a => a.text?
  | v => v.literal?

def isBlank : Value → Bool
  | .atom a => a.isBlank
  | .list xs => xs.isEmpty
  | .map es => es.isEmpty
  | .worded _ _ content => content.isBlank

/-- What a value holds when it is gone through one by one: the items of a list,
the keys of a map, the characters of a text, bytes as numbers. -/
def elements? : Value → Option (List Value)
  | .list xs => some xs
  | .map es => some (es.map fun entry => .atom entry.1)
  | .atom (.str s) => some ((Text.codePoints s).map fun n => .str (Text.ofCodePoints [n]))
  | .atom (.bytes bs) => some (bs.map fun b => .int b.toNat)
  | .atom _ => none
  | .worded _ _ content => content.elements?

end Value

end DroneTactics
