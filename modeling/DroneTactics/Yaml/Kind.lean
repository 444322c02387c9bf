import DroneTactics.Text.Numeral
import DroneTactics.Yaml.Timestamp

/-!
The kinds of YAML values. A plain scalar is of the kind that its spelling shows.
Underscores group digits and mean nothing. Numbers may be written in base sixty with
colons between the digits, as times and angles are.
-/

namespace DroneTactics.Yaml

inductive Kind where
  | null
  | bool
  | int
  | float
  | bytes
  | moment
  | str
  | list
  | map
  | set
  /-- A list of pairs, each written as a mapping of one entry. -/
  | pairs
  /-- As a key: the value is merged into the mapping. -/
  | merge
  /-- As a key: the value stands for the whole mapping. -/
  | standIn
  deriving DecidableEq, Repr

/-! ### Spellings -/

def spellings (word : String) : List String := [word, word.capitalize, word.toUpper]

def truths : List (String × Bool) :=
  [("yes", true), ("no", false), ("true", true), ("false", false), ("on", true), ("off", false)]

def isGrouped (c : Char) : Bool := c.isDigit || c = '_'

def isGroupedIn (base : Nat) (c : Char) : Bool :=
  c = '_' || (Text.digitValue? c).any (· < base)

def parts : List Char → List (List Char)
  | [] => [[]]
  | c :: cs =>
    match c, parts cs with
    | ':', ps => [] :: ps
    | c, p :: ps => (c :: p) :: ps
    | c, [] => [[c]]

def isSixtieth : List Char → Bool
  | [d] => d.isDigit
  | [t, d] => '0' ≤ t && t ≤ '5' && d.isDigit
  | _ => false

/-- A number in base sixty of at least two digits, the first of any size. -/
def isSexagesimal (cs : List Char) : Bool :=
  match parts cs with
  | first :: rest =>
    first.head?.any Char.isDigit && first.all isGrouped && !rest.isEmpty && rest.all isSixtieth
  | [] => false

def spellsInteger : List Char → Bool
  | ['0'] => true
  | '0' :: 'b' :: ds => !ds.isEmpty && ds.all (isGroupedIn 2)
  | '0' :: 'x' :: ds => !ds.isEmpty && ds.all (isGroupedIn 16)
  | '0' :: ds => ds.all (isGroupedIn 8)
  | d :: ds => d.isDigit && (ds.all isGrouped || isSexagesimal (d :: ds))
  | [] => false

def spellsPower : List Char → Bool
  | [] => true
  | e :: sign :: ds =>
    (e = 'e' || e = 'E') && (sign = '+' || sign = '-') && !ds.isEmpty && ds.all Char.isDigit
  | _ => false

/-- The spelling of a fraction without its sign. One that begins with its point has no
sign, unless it is infinite. -/
def spellsFraction (hasSign : Bool) (cs : List Char) : Bool :=
  let whole := cs.takeWhile (· ≠ '.')
  match cs.dropWhile (· ≠ '.') with
  | [] => false
  | _ :: after =>
    if whole.isEmpty then
      ["inf", "Inf", "INF"].contains (String.ofList after) ||
        (!hasSign && (["nan", "NaN", "NAN"].contains (String.ofList after) ||
          (after.head?.any Char.isDigit && spellsPower (after.dropWhile isGrouped))))
    else if isSexagesimal whole then after.all isGrouped
    else
      whole.head?.any Char.isDigit && whole.all isGrouped &&
        spellsPower (after.dropWhile isGrouped)

/-- A text without the line feed at its end, which a spelling may have; a line feed alone
spells nothing. -/
def withoutLineFeed (cs : List Char) : List Char :=
  if cs.getLast? = some '\n' && 1 < cs.length then cs.dropLast else cs

/-- The kind that the spelling of a plain scalar shows. Three signs are set aside and show
none. -/
def Kind.ofSpelling (text : String) : Option Kind :=
  let cs := withoutLineFeed text.toList
  let word := String.ofList cs
  let (sign, digits) := Text.Numeral.signed cs
  if word = "" || word = "~" || (spellings "null").contains word then some .null
  else if truths.any fun (truth, _) => (spellings truth).contains word then some .bool
  else if spellsInteger digits then some .int
  else if spellsFraction sign.isSome digits then some .float
  else if Timestamp.isShown cs then some .moment
  else if word = "<<" then some .merge
  else if word = "=" then some .standIn
  else if word = "!" || word = "&" || word = "*" then none
  else some .str

end DroneTactics.Yaml
