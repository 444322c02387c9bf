import DroneTactics.Document.Value

/-!
Reading JSON text, one character at a time. The reader is an automaton: it holds
the containers that are open, what may come next, and the token it is in the
middle of. Feeding it a text is a fold over the characters, so it stops on every
input.

A number without fraction and exponent is an integer of any size; any other is a
fraction. When an object repeats a key the last value stands.
-/

namespace DroneTactics.Json

/-- A container that is not closed yet, with its parts in reverse. -/
inductive Frame where
  | list (items : List Value)
  | map (entries : Entries) (key : String)

inductive Expect where
  /-- A value. -/
  | value
  /-- A value, or the end of an empty list. -/
  | firstItem
  /-- A key, or the end of an empty object. -/
  | firstKey
  /-- A key. -/
  | key
  /-- The colon after a key. -/
  | colon
  /-- A comma or the end of the container. -/
  | separator
  /-- Nothing: the value is complete. -/
  | nothing
  deriving DecidableEq

inductive Mode where
  /-- Between two tokens. -/
  | between
  /-- In a string; `high` is a first half of a surrogate pair that waits for the other. -/
  | string (text : List Char) (high : Option Nat)
  /-- After a backslash in a string. -/
  | escape (text : List Char) (high : Option Nat)
  /-- In a numeric escape that lacks `left` digits. -/
  | unicode (text : List Char) (high : Option Nat) (left code : Nat)
  /-- In a number or a word. -/
  | word (text : List Char)

structure Reader where
  frames : List Frame := []
  expect : Expect := .value
  mode : Mode := .between
  result : Value := .null

/-- A string in reverse after one more character or half, given by its number. -/
def push (text : List Char) (code : Nat) : List Char := (Text.spelled code).reverse ++ text

/-- A string in reverse, with the first half of a surrogate pair that no other follows. -/
def flush (text : List Char) (high : Option Nat) : List Char :=
  match high with
  | some unit => push text unit
  | none => text

/-- A code unit of a numeric escape joins the string. -/
def pushUnit (text : List Char) (high : Option Nat) (unit : Nat) : Mode :=
  if 0xd800 ≤ unit && unit < 0xdc00 then .string (flush text high) (some unit)
  else if 0xdc00 ≤ unit && unit < 0xe000 then
    match high with
    | some first => .string (push text (0x10000 + (first - 0xd800) * 0x400 + (unit - 0xdc00))) none
    | none => .string (push text unit) none
  else .string (push (flush text high) unit) none

def number? (cs : List Char) : Option Atom :=
  let negative := cs.head? = some '-'
  let cs := if negative then cs.drop 1 else cs
  let whole := cs.takeWhile Char.isDigit
  let rest := cs.dropWhile Char.isDigit
  if whole.isEmpty || (whole.length > 1 && whole.head? = some '0') then none
  else if rest.isEmpty then
    let n : Int := Text.decimal whole
    some (.int (if negative then -n else n))
  else
    let hasPoint := rest.head? = some '.'
    let fraction := if hasPoint then (rest.drop 1).takeWhile Char.isDigit else []
    let rest := if hasPoint then (rest.drop 1).dropWhile Char.isDigit else rest
    if hasPoint && fraction.isEmpty then none
    else
      let mantissa := Text.decimal (whole ++ fraction)
      let shift : Int := fraction.length
      match rest with
      | [] => some (.float (.ofDecimal negative mantissa (-shift)))
      | mark :: power =>
        let down := power.head? = some '-'
        let ds := if down || power.head? = some '+' then power.drop 1 else power
        if (mark = 'e' || mark = 'E') && !ds.isEmpty && ds.all Char.isDigit then
          let size : Int := Text.decimal ds
          some (.float (.ofDecimal negative mantissa ((if down then -size else size) - shift)))
        else none

/-- A number or one of the words of JSON. The sizes beyond every rational have names. -/
def word? (cs : List Char) : Option Atom :=
  if cs = "null".toList then some .null
  else if cs = "true".toList then some (.bool true)
  else if cs = "false".toList then some (.bool false)
  else if cs = "NaN".toList then some (.float .nan)
  else if cs = "Infinity".toList then some (.float (.infinite false))
  else if cs = "-Infinity".toList then some (.float (.infinite true))
  else number? cs

namespace Reader

/-- A complete value takes its place in the innermost open container. -/
def deliver (r : Reader) (v : Value) : Option Reader :=
  if r.expect = .value ∨ r.expect = .firstItem then
    match r.frames with
    | [] => some { r with result := v, expect := .nothing, mode := .between }
    | .list items :: rest =>
      some { r with frames := .list (v :: items) :: rest, expect := .separator, mode := .between }
    | .map entries key :: rest =>
      some { r with
        frames := .map (Entries.insert entries (.str key) v) key :: rest
        expect := .separator
        mode := .between }
  else none

def deliverString (r : Reader) (s : String) : Option Reader :=
  if r.expect = .key ∨ r.expect = .firstKey then
    match r.frames with
    | .map entries _ :: rest =>
      some { r with frames := .map entries s :: rest, expect := .colon, mode := .between }
    | _ => none
  else r.deliver (.str s)

def close (r : Reader) : Option Reader :=
  match r.frames with
  | [] => none
  | .list items :: rest => { r with frames := rest, expect := .value }.deliver (.list items.reverse)
  | .map entries _ :: rest => { r with frames := rest, expect := .value }.deliver (.map entries)

def inList (r : Reader) : Bool :=
  match r.frames with
  | .list _ :: _ => true
  | _ => false

def feedBetween (r : Reader) (c : Char) : Option Reader :=
  let mayStart := r.expect = .value ∨ r.expect = .firstItem
  if c = ' ' || c = '\n' || c = '\t' || c = '\r' then some r
  else if c = '"' then some { r with mode := .string [] none }
  else if c = '[' then
    if mayStart then some { r with frames := .list [] :: r.frames, expect := .firstItem } else none
  else if c = '\x7b' then
    if mayStart then some { r with frames := .map [] "" :: r.frames, expect := .firstKey } else none
  else if c = ']' then
    if r.inList && (r.expect = .firstItem || r.expect = .separator) then r.close else none
  else if c = '\x7d' then
    if !r.inList && (r.expect = .firstKey || r.expect = .separator) then r.close else none
  else if c = ':' then
    if r.expect = .colon then some { r with expect := .value } else none
  else if c = ',' then
    if r.expect = .separator then
      some { r with expect := if r.inList then .value else .key }
    else none
  else if mayStart then some { r with mode := .word [c] }
  else none

def endsWord (c : Char) : Bool :=
  c = ',' || c = ']' || c = '\x7d' || c = ' ' || c = '\n' || c = '\t' || c = '\r'

def endWord (r : Reader) (text : List Char) : Option Reader :=
  (word? text.reverse).bind fun a => r.deliver (.atom a)

def feed (r : Reader) (c : Char) : Option Reader :=
  match r.mode with
  | .between => r.feedBetween c
  | .word text =>
    if endsWord c then (r.endWord text).bind fun r => r.feedBetween c
    else some { r with mode := .word (c :: text) }
  | .string text high =>
    if c = '\\' then some { r with mode := .escape text high }
    else if c = '"' then r.deliverString (String.ofList (flush text high).reverse)
    else some { r with mode := .string (push (flush text high) c.toNat) none }
  | .escape text high =>
    let plain (d : Char) : Option Reader :=
      some { r with mode := .string (d :: flush text high) none }
    match c with
    | 'u' => some { r with mode := .unicode text high 4 0 }
    | '"' => plain '"'
    | '\\' => plain '\\'
    | '/' => plain '/'
    | 'b' => plain '\x08'
    | 'f' => plain '\x0c'
    | 'n' => plain '\n'
    | 'r' => plain '\r'
    | 't' => plain '\t'
    | _ => none
  | .unicode text high left code =>
    (Text.digitValue? c).map fun d =>
      let code := 16 * code + d
      if left ≤ 1 then { r with mode := pushUnit text high code }
      else { r with mode := .unicode text high (left - 1) code }

def finish (r : Reader) : Option Value :=
  match r.mode with
  | .word text => (r.endWord text).bind fun r => if r.expect = .nothing then some r.result else none
  | .between => if r.expect = .nothing then some r.result else none
  | _ => none

end Reader

def read? (text : String) : Option Value :=
  (text.toList.foldlM Reader.feed {}).bind Reader.finish

end DroneTactics.Json
