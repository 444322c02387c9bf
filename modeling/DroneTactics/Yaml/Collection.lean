import DroneTactics.Yaml.Object

/-!
The values that the objects of a document make up. A value is known once the values of its
parts are. A collection that is inside itself, or holds one that is, is never known in this
way: it is worded apart, with dots where it comes back to itself, and laid open for more
rounds than anyone reads.
-/

namespace DroneTactics.Yaml

abbrev Values := Array (Option Value)

namespace Object

def isText : Atom → Bool
  | .str _ => true
  | _ => false

/-- The members of a set in order, if they are all numbers or all texts. -/
def sortedMembers (members : List Atom) : List Atom :=
  if members.all (fun a => a.magnitude?.isSome) || members.all isText then
    members.mergeSort fun a b => a.order? b ≠ some .gt
  else members

/-- The parts of a collection between commas and inside marks, if each has a wording. -/
def joined? (left right : String) (parts : List (Option String)) : Option String :=
  (parts.mapM id).map fun parts => left ++ ", ".intercalate parts ++ right

def setValue (members : List Atom) : Value :=
  let members := sortedMembers members
  let wording :=
    if members.isEmpty then some "set()" else joined? "\x7b" "\x7d" (members.map Atom.literal?)
  .worded .set wording (.list (members.map .atom))

def pairValue (first second : Value) : Value :=
  .worded .pair (joined? "(" ")" [first.literal?, second.literal?]) (.list [first, second])

def value? (part : Nat → Option Value) : Object → Option Value
  | .opened => none
  | .atom a => some (.atom a)
  | .list items => (items.mapM part).map .list
  | .map entries =>
    (entries.mapM fun ((key, i) : Atom × Nat) => (part i).map fun v => (key, v)).map .map
  | .set members => some (setValue members)
  | .pair i j => (part i).bind fun v => (part j).map (pairValue v)

def emptyValue : Object → Value
  | .map _ => .map []
  | _ => .list []

end Object

namespace Objects

def get? (objects : Objects) (i : Nat) : Option Object := (objects[i]?).join

/-! ### Known values -/

def known? (values : Values) (i : Nat) : Option Value := (values[i]?).join

/-- One pass over a document from its end, where the innermost nodes are mostly found. -/
def pass (objects : Objects) (values : Values) : Values :=
  (List.range objects.size).foldr (fun i values =>
    match known? values i with
    | some _ => values
    | none =>
      values.setIfInBounds i ((objects.get? i).bind (Object.value? (known? values)))) values

/-- The values known after some passes, or as soon as that of the outermost node is. -/
def passes (objects : Objects) (root : Nat) : Nat → Values → Values
  | 0, values => values
  | n + 1, values =>
    if (known? values root).isSome then values
    else passes objects root n (objects.pass values)

/-! ### Collections inside themselves -/

def wording? (objects : Objects) : Nat → List Nat → Nat → Option String
  | 0, _, _ => none
  | fuel + 1, outer, i =>
    let part := objects.wording? fuel (i :: outer)
    match objects.get? i with
    | some (.list items) =>
      if outer.contains i then some "[...]" else Object.joined? "[" "]" (items.map part)
    | some (.pair j k) =>
      if outer.contains i then some "(...)" else Object.joined? "(" ")" [part j, part k]
    | some (.map entries) =>
      if outer.contains i then some "\x7b...\x7d"
      else
        let entry (key : Atom) (i : Nat) : Option String :=
          key.literal?.bind fun key => (part i).map fun part => key ++ ": " ++ part
        Object.joined? "\x7b" "\x7d" (entries.map fun (key, i) => entry key i)
    | some (.set members) => (Object.setValue members).literal?
    | some (.atom a) => a.literal?
    | some .opened => none
    | none => none

/-- How many times a collection is laid open inside itself. Definitions are not nested
more deeply. -/
def rounds : Nat := 12

/-- The values of the objects that have none yet, laid open once more. -/
def unfold (objects : Objects) (values : Values) (wordings : Array (Option String))
    (inner : Values) : Values :=
  let part (i : Nat) : Option Value := (known? values i).or (known? inner i)
  (Array.range objects.size).map fun i =>
    if (known? values i).isSome then none
    else
      ((objects.get? i).bind (Object.value? part)).map fun content =>
        .worded .knot wordings[i]?.join content.bare

/-- The value of an object that is inside itself or holds one that is. -/
def knotted? (objects : Objects) (values : Values) (root : Nat) : Option Value :=
  let wordings := (Array.range objects.size).map fun i =>
    if (known? values i).isSome then none else objects.wording? (objects.size + 1) [] i
  let start : Values := (Array.range objects.size).map fun i =>
    if (known? values i).isSome then none
    else (objects.get? i).map fun object => .worded .knot wordings[i]?.join object.emptyValue
  known? (rounds.repeat (objects.unfold values wordings) start) root

def value? (objects : Objects) (root : Nat) : Option Value :=
  let values := objects.passes root (objects.size + 1) (Array.replicate objects.size none)
  (known? values root).or (objects.knotted? values root)

end Objects

end DroneTactics.Yaml
