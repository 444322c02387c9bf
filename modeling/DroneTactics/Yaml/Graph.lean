import DroneTactics.Yaml.Node

/-!
The nodes of a document by number. A node and its alias are one node, so a collection may
be inside itself. Nodes are numbered in the order in which they begin; an alias must come
after the anchor it names, and no two nodes have the same anchor.
-/

namespace DroneTactics.Yaml

/-- What a node holds; the nodes in it are given by number. -/
inductive Content where
  | scalar (text : String)
  | sequence (items : List Nat)
  | mapping (entries : List (Nat × Nat))
  deriving Repr

/-- A node of a document. Its kind is missing if its tag means nothing. -/
structure Vertex where
  kind : Option Kind
  content : Content
  deriving Repr

abbrev Graph := Array Vertex

namespace Graph

def kind? (g : Graph) (i : Nat) : Option Kind := g[i]?.bind Vertex.kind

def content? (g : Graph) (i : Nat) : Option Content := g[i]?.map Vertex.content

def entries (g : Graph) (i : Nat) : List (Nat × Nat) :=
  match g.content? i with
  | some (.mapping entries) => entries
  | _ => []

def withContent (g : Graph) (i : Nat) (content : Content) : Graph :=
  g.modify i fun v => { v with content }

def withKind (g : Graph) (i : Nat) (kind : Kind) : Graph :=
  g.modify i fun v => { v with kind := some kind }

end Graph

/-! ### Numbering -/

/-- The nodes numbered so far, and the numbers of those that have an anchor. -/
structure Numbering where
  graph : Graph := #[]
  anchors : List (String × Nat) := []

namespace Numbering

/-- A node begins: it takes the next number and its anchor, which must be new. -/
def enter? (n : Numbering) (props : Properties) (v : Vertex) : Option (Nat × Numbering) :=
  let i := n.graph.size
  let graph := n.graph.push v
  match props.anchor with
  | none => some (i, { n with graph })
  | some name =>
    if (n.anchors.lookup name).isSome then none
    else some (i, { graph, anchors := (name, i) :: n.anchors })

def leave (n : Numbering) (i : Nat) (content : Content) : Numbering :=
  { n with graph := n.graph.withContent i content }

mutual

/-- The number of a node, and the numbering with the node and all nodes in it. -/
def node? (n : Numbering) : Node → Option (Nat × Numbering)
  | .alias name => (n.anchors.lookup name).map (·, n)
  | .scalar props plain text =>
    let spelled := Kind.ofSpelling text
    n.enter? props ⟨props.kind? (if plain then spelled else some .str) spelled, .scalar text⟩
  | .sequence props items =>
    (n.enter? props ⟨props.kind? (some .list) (some .list), .sequence []⟩).bind fun (i, n) =>
      (nodes? n items).map fun (items, n) => (i, n.leave i (.sequence items))
  | .mapping props entries =>
    (n.enter? props ⟨props.kind? (some .map) (some .map), .mapping []⟩).bind fun (i, n) =>
      (entries? n entries).map fun (entries, n) => (i, n.leave i (.mapping entries))

def nodes? (n : Numbering) : List Node → Option (List Nat × Numbering)
  | [] => some ([], n)
  | node :: rest =>
    (node? n node).bind fun (i, n) => (nodes? n rest).map fun (is, n) => (i :: is, n)

def entries? (n : Numbering) : List (Node × Node) → Option (List (Nat × Nat) × Numbering)
  | [] => some ([], n)
  | (key, value) :: rest =>
    (node? n key).bind fun (k, n) =>
      (node? n value).bind fun (v, n) =>
        (entries? n rest).map fun (entries, n) => ((k, v) :: entries, n)

end

end Numbering

def Graph.ofNode? (root : Node) : Option (Graph × Nat) :=
  (Numbering.node? {} root).map fun (i, n) => (n.graph, i)

end DroneTactics.Yaml
