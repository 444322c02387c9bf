import DroneTactics.Yaml.Node
import DroneTactics.Yaml.Token

/-!
The grammar of a YAML text: the one document that its tokens make up. Each rule reads
a node or a part of one from the tokens and leaves no more tokens than there were; a
loop takes at least one token in every round, so every rule ends.
-/

namespace DroneTactics.Yaml

structure Read (α : Type) (ts : List Token) where
  result : α
  rest : List Token
  le : rest.length ≤ ts.length

/-- What has been read of a block, with the token of its end passed over. -/
def Read.closed? {α : Type} {ts : List Token} (r : Read α ts) : Option (Read α ts) :=
  match r with
  | ⟨result, .blockEnd :: rest, h⟩ => some ⟨result, rest, by simp at h; omega⟩
  | _ => none

abbrev Handles := List (String × String)

namespace Handles

def standard : Handles := [("!", "!"), ("!!", Tag.standard)]

def tag? (handles : Handles) (written : WrittenTag) : Option Tag :=
  match written.handle with
  | none => some (.ofText written.suffix)
  | some handle => (handles.lookup handle).map fun start => .ofText (start ++ written.suffix)

end Handles

inductive Place where
  /-- At the top, or in a block sequence. -/
  | item
  /-- In a block mapping, where the entries of a sequence need no indentation. -/
  | field
  /-- In a flow collection. -/
  | flow
  deriving DecidableEq

/-- The tokens before which nothing is an empty node. -/
def Place.ends : Place → Option Token → Bool
  | .item, some t => t = .blockEntry || t = .key || t = .value || t = .blockEnd
  | .field, some t => t = .key || t = .value || t = .blockEnd
  | .flow, some t =>
    t = .value || t = .flowEntry || t = .flowSequenceEnd || t = .flowMappingEnd
  | _, none => false

/-! ### Properties -/

def properties (handles : Handles) (ts : List Token) : Option (Read Properties ts) :=
  match ts with
  | .anchor name :: .tag written :: rest =>
    (handles.tag? written).map fun tag => ⟨{ anchor := name, tag }, rest, by simp; omega⟩
  | .tag written :: .anchor name :: rest =>
    (handles.tag? written).map fun tag => ⟨{ anchor := name, tag }, rest, by simp; omega⟩
  | .anchor name :: rest => some ⟨{ anchor := name }, rest, by simp⟩
  | .tag written :: rest => (handles.tag? written).map fun tag => ⟨{ tag }, rest, by simp⟩
  | ts => some ⟨{}, ts, Nat.le_refl _⟩

/-! ### Nodes -/

mutual

def optionalNode (handles : Handles) (place : Place) (ts : List Token) : Option (Read Node ts) :=
  if place.ends ts.head? then some ⟨.empty {}, ts, Nat.le_refl _⟩ else node handles place ts
termination_by 5 * ts.length + 3

def node (handles : Handles) (place : Place) (ts : List Token) : Option (Read Node ts) :=
  match ts with
  | .alias name :: rest => some ⟨.alias name, rest, by simp⟩
  | ts =>
    match properties handles ts with
    | none => none
    | some ⟨props, rest, h⟩ =>
      (content handles place props rest).map fun ⟨n, rest', h'⟩ => ⟨n, rest', Nat.le_trans h' h⟩
termination_by 5 * ts.length + 2

/-- A node after its properties. It may be empty if it has any. -/
def content (handles : Handles) (place : Place) (props : Properties) (ts : List Token) :
    Option (Read Node ts) :=
  match ts with
  | .scalar text plain :: rest => some ⟨.scalar props plain text, rest, by simp⟩
  | .flowSequenceStart :: rest =>
    (flowItems handles rest).map fun ⟨items, rest', h⟩ =>
      ⟨.sequence props items, rest', by simp; omega⟩
  | .flowMappingStart :: rest =>
    (flowEntries handles rest).map fun ⟨entries, rest', h⟩ =>
      ⟨.mapping props entries, rest', by simp; omega⟩
  | .blockSequenceStart :: rest =>
    (blockItems handles rest).bind fun items =>
      items.closed?.map fun ⟨items, rest', h⟩ => ⟨.sequence props items, rest', by simp; omega⟩
  | .blockMappingStart :: rest =>
    (blockEntries handles rest).bind fun entries =>
      entries.closed?.map fun ⟨entries, rest', h⟩ =>
        ⟨.mapping props entries, rest', by simp; omega⟩
  | ts =>
    if place = .field ∧ ts.head? = some .blockEntry then
      (blockItems handles ts).map fun ⟨items, rest', h⟩ => ⟨.sequence props items, rest', h⟩
    else if props = {} then none
    else some ⟨.empty props, ts, Nat.le_refl _⟩
termination_by 5 * ts.length + 1

def blockItems (handles : Handles) (ts : List Token) : Option (Read (List Node) ts) :=
  match ts with
  | .blockEntry :: rest =>
    match optionalNode handles .item rest with
    | none => none
    | some ⟨item, rest', h⟩ =>
      (blockItems handles rest').map fun ⟨items, rest'', h'⟩ =>
        ⟨item :: items, rest'', by simp; omega⟩
  | ts => some ⟨[], ts, Nat.le_refl _⟩
termination_by 5 * ts.length

def blockEntries (handles : Handles) (ts : List Token) :
    Option (Read (List (Node × Node)) ts) :=
  match ts with
  | .key :: rest =>
    match entry handles .field rest with
    | none => none
    | some ⟨first, rest', h⟩ =>
      (blockEntries handles rest').map fun ⟨entries, rest'', h'⟩ =>
        ⟨first :: entries, rest'', by simp; omega⟩
  | ts => some ⟨[], ts, Nat.le_refl _⟩
termination_by 5 * ts.length

/-- An entry of a mapping after the token of its key. Its value may be missing. -/
def entry (handles : Handles) (place : Place) (ts : List Token) :
    Option (Read (Node × Node) ts) :=
  match optionalNode handles place ts with
  | none => none
  | some ⟨key, rest, h⟩ =>
    match rest, h with
    | .value :: rest, h =>
      (optionalNode handles place rest).map fun ⟨value, rest', h'⟩ =>
        ⟨(key, value), rest', by simp at h; omega⟩
    | rest, h => some ⟨(key, .empty {}), rest, h⟩
termination_by 5 * ts.length + 4
decreasing_by all_goals grind

/-- An item of a flow sequence. An entry of a mapping stands for a mapping of its own. -/
def flowItem (handles : Handles) (ts : List Token) : Option (Read Node ts) :=
  match ts with
  | .key :: rest =>
    (entry handles .flow rest).map fun ⟨pair, rest', h⟩ =>
      ⟨.mapping {} [pair], rest', by simp; omega⟩
  | ts => node handles .flow ts
termination_by 5 * ts.length + 3

def flowItems (handles : Handles) (ts : List Token) : Option (Read (List Node) ts) :=
  match ts with
  | .flowSequenceEnd :: rest => some ⟨[], rest, by simp⟩
  | ts =>
    match flowItem handles ts with
    | none => none
    | some ⟨item, rest, h⟩ =>
      match rest, h with
      | .flowSequenceEnd :: rest, h => some ⟨[item], rest, by simp at h; omega⟩
      | .flowEntry :: rest, h =>
        (flowItems handles rest).map fun ⟨items, rest', h'⟩ =>
          ⟨item :: items, rest', by simp at h; omega⟩
      | _, _ => none
termination_by 5 * ts.length + 4
decreasing_by all_goals grind

/-- An entry of a flow mapping. A node on its own is a key. -/
def flowEntry (handles : Handles) (ts : List Token) : Option (Read (Node × Node) ts) :=
  match ts with
  | .key :: rest =>
    (entry handles .flow rest).map fun ⟨pair, rest', h⟩ => ⟨pair, rest', by simp; omega⟩
  | ts => (node handles .flow ts).map fun ⟨key, rest, h⟩ => ⟨(key, .empty {}), rest, h⟩
termination_by 5 * ts.length + 3

def flowEntries (handles : Handles) (ts : List Token) :
    Option (Read (List (Node × Node)) ts) :=
  match ts with
  | .flowMappingEnd :: rest => some ⟨[], rest, by simp⟩
  | ts =>
    match flowEntry handles ts with
    | none => none
    | some ⟨pair, rest, h⟩ =>
      match rest, h with
      | .flowMappingEnd :: rest, h => some ⟨[pair], rest, by simp at h; omega⟩
      | .flowEntry :: rest, h =>
        (flowEntries handles rest).map fun ⟨pairs, rest', h'⟩ =>
          ⟨pair :: pairs, rest', by simp at h; omega⟩
      | _, _ => none
termination_by 5 * ts.length + 4
decreasing_by all_goals grind

end

/-! ### Documents -/

/-- The directives before a document. Only texts of the first version can be read, and
nothing is said twice. -/
structure Directives where
  versioned : Bool := false
  handles : Handles := []

namespace Directives

def add? (d : Directives) : Token → Option Directives
  | .version major => if d.versioned || major ≠ 1 then none else some { d with versioned := true }
  | .tagHandle handle start =>
    if (d.handles.lookup handle).isSome then none
    else some { d with handles := (handle, start) :: d.handles }
  | _ => some d

def isOne : Token → Bool
  | .version _ => true
  | .tagHandle _ _ => true
  | .otherDirective => true
  | _ => false

end Directives

def body? (handles : Handles) (ts : List Token) : Option Node :=
  (node handles .item ts).bind fun ⟨root, rest, _⟩ =>
    if rest.all (· = .documentEnd) then some root else none

/-- The document that all tokens of a text make up. There is at most one; where there
is none its root is empty. -/
def document? (ts : List Token) : Option Node :=
  match ts.span Directives.isOne with
  | ([], []) => some (.empty {})
  | (directives, .documentStart :: rest) =>
    (directives.foldlM Directives.add? {}).bind fun d =>
      if rest.all (· = .documentEnd) then some (.empty {})
      else body? (d.handles ++ Handles.standard) rest
  | ([], ts) => body? Handles.standard ts
  | _ => none

end DroneTactics.Yaml
