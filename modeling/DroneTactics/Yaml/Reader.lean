import DroneTactics.Yaml.Collection
import DroneTactics.Yaml.Document
import DroneTactics.Yaml.Tokens

/-!
Reading a YAML text as raw data: its tokens, the document that they make up, the nodes of
the document by number, the objects that the nodes stand for, and the value of the
outermost one.
-/

namespace DroneTactics.Yaml

def isAllowed (c : Char) : Bool :=
  let n := c.toNat
  c = '\t' || c = '\n' || (0x20 ≤ n && n ≤ 0x7e) || n = 0x85 ||
    (0xa0 ≤ n && n ≤ 0xfffd) || 0x10000 ≤ n

def withLineFeeds : List Char → List Char
  | '\r' :: '\n' :: rest => '\n' :: withLineFeeds rest
  | '\r' :: rest => '\n' :: withLineFeeds rest
  | c :: rest => c :: withLineFeeds rest
  | [] => []

def graph? (text : String) : Option (Graph × Nat) :=
  let cs := withLineFeeds text.toList
  if cs.all isAllowed then ((tokens? cs).bind document?).bind Graph.ofNode? else none

/-- The value that a text stands for. A text without content stands for nothing. -/
def read (text : String) : Except Failure Value :=
  match graph? text with
  | none => .error .malformed
  | some (graph, root) =>
    match graph.objects root with
    | .error failure => .error failure
    | .ok objects =>
      match objects.value? root with
      | some v => .ok v
      | none => .error .malformed

end DroneTactics.Yaml
