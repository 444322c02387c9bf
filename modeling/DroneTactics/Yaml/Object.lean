import DroneTactics.Yaml.Atom
import DroneTactics.Yaml.Merge

/-!
The objects that the nodes of a document stand for. A scalar becomes an atom at once. A
collection is opened first and filled later: all collections that are opened while one
level of the document is filled make up the next level. A collection is opened once, so it
may hold itself, and the work ends. Merging happens when a mapping is filled; its effect on
shared nodes is seen by whatever is filled after it.
-/

namespace DroneTactics.Yaml

/-- What a node stands for; the parts of a collection are given by number. A pair has a
number of its own, after those of the nodes. -/
inductive Object where
  /-- A collection that is not filled yet. -/
  | opened
  | atom (a : Atom)
  | list (items : List Nat)
  | map (entries : List (Atom × Nat))
  | set (members : List Atom)
  | pair (first second : Nat)
  deriving Repr

/-- The text of a scalar, or of the node that stands for a mapping. With as much fuel as
there are nodes, only a mapping that stands for itself uses it up. -/
def Graph.text (g : Graph) : Nat → Nat → Except Failure String
  | 0, _ => .error .endless
  | fuel + 1, i =>
    match g.content? i with
    | some (.scalar text) => .ok text
    | some (.mapping entries) =>
      match entries.find? fun (key, _) => g.kind? key = some .standIn with
      | some (_, value) => g.text fuel value
      | none => .error .malformed
    | _ => .error .malformed

/-- The work on a document: its nodes as merging leaves them, the objects known so far by
number, and the collections of the next level, the last one first. -/
structure Building where
  graph : Graph
  /-- As many as there are merge keys, and one more. -/
  merges : Nat
  objects : Array (Option Object)
  level : List Nat := []

abbrev Build (α : Type) := StateT Building (Except Failure) α

namespace Build

def refuse {α : Type} : Build α := throw .malformed

def require {α : Type} : Option α → Build α
  | some a => pure a
  | none => refuse

def setObject (i : Nat) (object : Object) : Build Unit :=
  modify fun b => { b with objects := b.objects.setIfInBounds i (some object) }

/-- The atom that a node stands for. A mapping has a text for every kind but a moment. -/
def atom (i : Nat) (kind : Kind) : Build Atom := do
  let g := (← get).graph
  let text ← liftM (g.text (g.size + 1) i)
  match kind, g.content? i with
  | .moment, some (.mapping _) => throw .notText
  | kind, _ => liftM (kind.read text)

/-- The object of a node is known afterwards; a collection may only be opened. -/
def visit (i : Nat) : Build Object := do
  match ((← get).objects[i]?).join with
  | some object => pure object
  | none =>
    match (← get).graph.kind? i with
    | none | some .merge | some .standIn => refuse
    | some .list | some .map | some .set | some .pairs =>
      setObject i .opened
      modify fun b => { b with level := i :: b.level }
      pure .opened
    | some kind =>
      let a ← atom i kind
      setObject i (.atom a)
      pure (.atom a)

def key (i : Nat) : Build Atom := do
  match ← visit i with
  | .atom a => pure a
  | _ => refuse

def fields (i : Nat) : Build (List (Atom × Nat)) := do
  match (← get).graph.content? i with
  | some (.mapping _) =>
    let b ← get
    let graph ← require (Graph.mergeFrom? b.merges b.graph i [])
    set { b with graph }
    let entries ← (graph.entries i).mapM fun (k, v) => do
      let a ← key k
      let _ ← visit v
      pure (a, v)
    pure (Entries.ofList entries)
  | _ => refuse

def items (i : Nat) : Build (List Nat) := do
  match (← get).graph.content? i with
  | some (.sequence is) => pure is
  | _ => refuse

def pair (i : Nat) : Build Nat := do
  match (← get).graph.content? i with
  | some (.mapping [(k, v)]) =>
    let _ ← visit k
    let _ ← visit v
    let number := (← get).objects.size
    modify fun b => { b with objects := b.objects.push (some (.pair k v)) }
    pure number
  | _ => refuse

def fill (i : Nat) : Build Unit := do
  match (← get).graph.kind? i with
  | some .list =>
    let is ← items i
    is.forM fun item => discard (visit item)
    setObject i (.list is)
  | some .map => setObject i (.map (← fields i))
  | some .set => setObject i (.set ((← fields i).map Prod.fst))
  | some .pairs => setObject i (.list (← (← items i).mapM pair))
  | _ => refuse

/-- All collections are filled, level by level. Every level but the last opens a collection,
so `fuel` need not be more than the number of nodes and one. -/
def levels : Nat → Build Unit
  | 0 => pure ()
  | fuel + 1 => do
    let level := (← get).level
    if level.isEmpty then pure ()
    else
      modify fun b => { b with level := [] }
      level.reverse.forM fill
      levels fuel

end Build

/-- The objects of a document by number: first those of the nodes, then the pairs. -/
abbrev Objects := Array (Option Object)

def Graph.objects (g : Graph) (root : Nat) : Except Failure Objects := do
  let start : Building :=
    { graph := g, merges := g.mergeCount + 1, objects := Array.replicate g.size none }
  let build : Build Unit := do
    let _ ← Build.visit root
    Build.levels (g.size + 1)
  let (_, b) ← build.run start
  pure b.objects

end DroneTactics.Yaml
