import DroneTactics.Document.Value
import DroneTactics.Text.Base64
import DroneTactics.Text.Numeral
import DroneTactics.Yaml.Kind

/-!
Reading the text of a scalar as a value of its kind. A tag may give a text any kind, so
more texts are read than the spelling of a kind shows: a number has one sign of its own
and is a numeral after it, with blanks and another sign if it likes.
-/

namespace DroneTactics.Yaml

/-- Why a text has no value. Every text that is well formed and whose values fit the kinds
they are of has one; the other reasons concern single values. -/
inductive Failure where
  | malformed
  /-- A text that spells no number, or a moment that never is. -/
  | unreadable
  /-- A number of which nothing is written. -/
  | emptyNumber
  /-- A number in base sixty with too many digits for a fraction. -/
  | outOfRange
  /-- A word that means neither true nor false. -/
  | noTruth
  /-- A text that states no moment. -/
  | noMoment
  /-- A moment that a mapping should state. -/
  | notText
  /-- A text that is to be found in the mapping that it stands for. -/
  | endless
  deriving DecidableEq, Repr

def numeral (base : Nat) (cs : List Char) : Except Failure Int :=
  match Text.Numeral.integer? base cs with
  | some n => .ok n
  | none => .error .unreadable

/-- The size of an integer: a leading zero is the mark of another base. -/
def integerSize : List Char → Except Failure Int
  | [] => .error .emptyNumber
  | ['0'] => .ok 0
  | '0' :: 'b' :: ds => numeral 2 ds
  | '0' :: 'x' :: ds => numeral 16 ds
  | '0' :: ds => numeral 8 ('0' :: ds)
  | cs => do
    let ds ← (parts cs).mapM (numeral 10)
    pure (ds.foldl (fun n d => 60 * n + d) 0)

def integer (text : String) : Except Failure Int :=
  let (sign, cs) := Text.Numeral.signed (text.toList.filter (· ≠ '_'))
  (integerSize cs).map fun n => if sign = some '-' then -n else n

def addSixtieth (state : Binary64 × Int) (d : Binary64) : Except Failure (Binary64 × Int) :=
  match Binary64.ofInt? state.2 with
  | some b => .ok (state.1.add (d.mul b), 60 * state.2)
  | none => .error .outOfRange

/-- The sum of digits times powers of sixty, the last digit first, rounded after every
step. -/
def sumSixtieths (ds : List Binary64) : Except Failure Binary64 :=
  (ds.foldlM addSixtieth (.ofFraction false 0 1, 1)).map Prod.fst

def fractionNumeral (cs : List Char) : Except Failure Binary64 :=
  match Text.Numeral.fraction? cs with
  | some x => .ok x
  | none => .error .unreadable

def fractionSize (cs : List Char) : Except Failure Binary64 :=
  if cs = ".inf".toList then .ok (.infinite false)
  else if cs = ".nan".toList then .ok .nan
  else if cs.contains ':' then do
    let ds ← (parts cs).mapM fractionNumeral
    sumSixtieths ds.reverse
  else fractionNumeral cs

def fraction (text : String) : Except Failure Binary64 :=
  let cs := (text.toList.filter (· ≠ '_')).map Char.toLower
  if cs.isEmpty then .error .emptyNumber
  else
    let (sign, cs) := Text.Numeral.signed cs
    (fractionSize cs).map fun x => if sign = some '-' then x.neg else x

def truth (text : String) : Except Failure Bool :=
  match truths.lookup text.toLower with
  | some b => .ok b
  | none => .error .noTruth

def bytesOf (text : String) : Except Failure (List UInt8) :=
  let cs := text.toList
  match if cs.all fun c => c.toNat < 128 then Text.Base64.decode? cs else none with
  | some bs => .ok bs
  | none => .error .malformed

def momentOf (text : String) : Except Failure Moment :=
  match Timestamp.read? (withoutLineFeed text.toList) with
  | none => .error .noMoment
  | some m => if m.valid then .ok m else .error .unreadable

def Kind.read (kind : Kind) (text : String) : Except Failure Atom :=
  match kind with
  | .null => .ok .null
  | .bool => (truth text).map .bool
  | .int => (integer text).map .int
  | .float => (fraction text).map .float
  | .bytes => (bytesOf text).map .bytes
  | .moment => (momentOf text).map .moment
  | .str => .ok (.str text)
  | .list | .map | .set | .pairs | .merge | .standIn => .error .malformed

end DroneTactics.Yaml
