import DroneTactics.Yaml.Kind

/-!
The nodes of a YAML text: scalars, sequences and mappings as they are written, with
their tags and anchors. An alias stands for the node with its anchor.
-/

namespace DroneTactics.Yaml

inductive Tag where
  /-- The spelling shows the kind, even in quotes. -/
  | spelled
  | known (kind : Kind)
  /-- A kind that means nothing here. -/
  | unknown
  deriving DecidableEq, Repr

namespace Tag

def standard : String := "tag:yaml.org,2002:"

def names : List (String × Kind) :=
  [("null", .null), ("bool", .bool), ("int", .int), ("float", .float), ("binary", .bytes),
    ("timestamp", .moment), ("str", .str), ("seq", .list), ("map", .map), ("set", .set),
    ("omap", .pairs), ("pairs", .pairs), ("merge", .merge), ("value", .standIn)]

def ofText (text : String) : Tag :=
  if text = "!" then .spelled
  else match names.find? fun (name, _) => standard ++ name = text with
    | some (_, kind) => .known kind
    | none => .unknown

end Tag

structure Properties where
  anchor : Option String := none
  tag : Option Tag := none
  deriving DecidableEq, Repr

/-- The kind of a node with some properties; `usual` is the kind that its form shows, and
`spelled` the one that its spelling would show. None if the kind means nothing here. -/
def Properties.kind? (props : Properties) (usual spelled : Option Kind) : Option Kind :=
  match props.tag with
  | none => usual
  | some .spelled => spelled
  | some (.known kind) => some kind
  | some .unknown => none

inductive Node where
  | alias (name : String)
  | scalar (props : Properties) (plain : Bool) (text : String)
  | sequence (props : Properties) (items : List Node)
  | mapping (props : Properties) (entries : List (Node × Node))
  deriving Repr

def Node.empty (props : Properties) : Node := .scalar props true ""

end DroneTactics.Yaml
