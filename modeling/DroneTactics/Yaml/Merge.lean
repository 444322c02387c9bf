import DroneTactics.Yaml.Graph

/-!
Merging mappings into a mapping. The value of a merge key is a mapping or a sequence of
mappings, the last one first; their entries come before the mapping's own ones. A mapping
that is merged takes in its own merged entries first. A merge key is taken away before its
value is looked at, so a mapping may be merged into itself. Afterwards a key that would
stand for the mapping is an ordinary text.
-/

namespace DroneTactics.Yaml.Graph

/-- The entries before the first one with a merge key, its value, and those after it. -/
def splitMerge? (g : Graph) :
    List (Nat × Nat) → Option (List (Nat × Nat) × Nat × List (Nat × Nat))
  | [] => none
  | (key, value) :: rest =>
    if g.kind? key = some .merge then some ([], value, rest)
    else (splitMerge? g rest).map fun (before, v, after) => ((key, value) :: before, v, after)

/-- A mapping with the entries that are merged into it, and with its keys ordinary. -/
def settle (g : Graph) (i : Nat) (merged : List (Nat × Nat)) : Graph :=
  let own := g.entries i
  let g := own.foldl (fun g (key, _) =>
    if g.kind? key = some .standIn then g.withKind key .str else g) g
  if merged.isEmpty then g else g.withContent i (.mapping (merged ++ own))

/-- A mapping with all merges carried out; `merged` are the entries merged so far. None if
something is merged that is no mapping. Each round takes a merge key away, so `fuel` need
not be more than the merge keys of the document and one. -/
def mergeFrom? : Nat → Graph → Nat → List (Nat × Nat) → Option Graph
  | 0, _, _, _ => none
  | fuel + 1, g, i, merged =>
    match g.splitMerge? (g.entries i) with
    | none => some (g.settle i merged)
    | some (before, value, after) =>
      let g := g.withContent i (.mapping (before ++ after))
      match g.content? value with
      | some (.mapping _) =>
        (mergeFrom? fuel g value []).bind fun g =>
          mergeFrom? fuel g i (merged ++ g.entries value)
      | some (.sequence items) =>
        (items.foldlM (fun ((g, more) : Graph × List (Nat × Nat)) item =>
          match g.content? item with
          | some (.mapping _) =>
            (mergeFrom? fuel g item []).map fun (g : Graph) => (g, g.entries item ++ more)
          | _ => none) (g, [])).bind fun (g, more) => mergeFrom? fuel g i (merged ++ more)
      | _ => none

def mergeCount (g : Graph) : Nat :=
  g.foldl (fun n v =>
    match v.content with
    | .mapping entries => n + entries.countP fun (key, _) => g.kind? key = some .merge
    | _ => n) 0

end DroneTactics.Yaml.Graph
