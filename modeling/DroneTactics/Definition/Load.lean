import DroneTactics.Definition.Decode
import DroneTactics.Definition.Validation
import DroneTactics.Rules

/-!
Sets of definitions read from a data file. Reading is all or nothing: every entry that
cannot be read is reported with all its problems, cards before abilities and in file
order, and only a file without any gives a set. Under given rules the set must also be
valid on their lanes. Loading breaks off where a report holds a number that is too long to
be written.
-/

namespace DroneTactics

/-- The cards and abilities of one data file, in file order. -/
structure DefinitionSet where
  cards : List Card
  abilities : List Ability

/-- The first card with an id. -/
def DefinitionSet.card? (set : DefinitionSet) (id : String) : Option Card :=
  set.cards.find? fun c => c.id = id

inductive EntryKind where
  | card
  | ability
  deriving DecidableEq, Repr

namespace EntryKind

def title : EntryKind → String
  | .card => "Card"
  | .ability => "Ability"

def labelField : EntryKind → String
  | .card => "id"
  | .ability => "name"

/-- What names an entry in a report, unless it is too long to be written. -/
def label? (kind : EntryKind) (v : Value) : Option String :=
  match v.bare with
  | .map entries =>
    match Entries.named? entries kind.labelField with
    | some v => v.text?
    | none => some ("<no " ++ kind.labelField ++ ">")
  | _ => some "<not a mapping>"

end EntryKind

structure Refusal where
  kind : EntryKind
  label : String
  problem : Problem
  deriving DecidableEq, Repr

def Refusal.message (r : Refusal) : String :=
  r.kind.title ++ " '" ++ r.label ++ "': " ++ r.problem.message

inductive EntryFailure where
  | refused (refusals : List Refusal)
  /-- It cannot be read, and what names it cannot be written. -/
  | unwritable
  deriving DecidableEq, Repr

/-- What an entry is read as; its problems are reported under its name. -/
def EntryKind.judge {α : Type} (kind : EntryKind) (v : Value) : Decoded α → Except EntryFailure α
  | .ok a => .ok a
  | .failed problems =>
    match kind.label? v with
    | some label => .error (.refused (problems.map (⟨kind, label, ·⟩)))
    | none => .error .unwritable

def Card.parse (v : Value) : Except EntryFailure Card := EntryKind.card.judge v (Card.ofValue v)

def Ability.parse (v : Value) : Except EntryFailure Ability :=
  EntryKind.ability.judge v (Ability.ofValue v)

def Definition.parse (kind : EntryKind) (v : Value) : Except EntryFailure Definition :=
  match kind with
  | .card => (Card.parse v).map .card
  | .ability => (Ability.parse v).map .ability

inductive LoadFailure where
  | noFile
  | unread (failure : Yaml.Failure)
  | notMap
  /-- A section of the file cannot be gone through entry by entry. -/
  | notListed
  | refused (refusals : List Refusal)
  | invalid (defects : List Defect)
  /-- A report holds a number that is too long to be written. -/
  | unwritable
  deriving DecidableEq, Repr

def LoadFailure.messages (path : String) : LoadFailure → List String
  | .noFile => [path ++ ": [Errno 2] No such file or directory: '" ++ path ++ "'"]
  | .unread .malformed => [path ++ ": <yaml error>"]
  | .unread _ => []
  | .notMap => [path ++ ": top level must be a mapping"]
  | .notListed => []
  | .refused refusals => refusals.map Refusal.message
  | .invalid defects => defects.filterMap Defect.message?
  | .unwritable => []

/-- The entries of a section of a file; a blank section has none. -/
def sectionEntries (entries : Entries) (name : String) : Except LoadFailure (List Value) :=
  let v := (entries.named? name).getD .null
  if v.isBlank then .ok []
  else match v.elements? with
    | some vs => .ok vs
    | none => .error .notListed

/-- What the entries of a section are read as and what of them is refused, each in order. -/
def collect {α : Type} (parse : Value → Except EntryFailure α) :
    List Value → Except LoadFailure (List α × List Refusal)
  | [] => .ok ([], [])
  | v :: vs =>
    match parse v with
    | .ok a => (collect parse vs).map fun (good, bad) => (a :: good, bad)
    | .error (.refused refusals) =>
      (collect parse vs).map fun (good, bad) => (good, refusals ++ bad)
    | .error .unwritable => .error .unwritable

namespace DefinitionSet

def ofEntries (entries : Entries) : Except LoadFailure DefinitionSet := do
  let (cards, cardRefusals) ← collect Card.parse (← sectionEntries entries "cards")
  let (abilities, abilityRefusals) ← collect Ability.parse (← sectionEntries entries "abilities")
  match cardRefusals ++ abilityRefusals with
  | [] => pure ⟨cards, abilities⟩
  | refusals => .error (.refused refusals)

def checked (set : DefinitionSet) (rules : Rules) : Except LoadFailure DefinitionSet :=
  match checkStrictly set.cards set.abilities rules.lanes with
  | .ok _ => .ok set
  | .error (.invalid defects) => .error (.invalid defects)
  | .error .unwritable => .error .unwritable

/-- The set of definitions in a file's data, checked if rules are given. A file that
holds nothing has no definitions. -/
def ofValue (v : Value) (rules : Option Rules) : Except LoadFailure DefinitionSet := do
  let set ←
    match v.bare with
    | .map entries => ofEntries entries
    | v => if v.isBlank then pure ⟨[], []⟩ else .error .notMap
  match rules with
  | some rules => set.checked rules
  | none => pure set

def ofText (text : Option String) (rules : Option Rules) : Except LoadFailure DefinitionSet :=
  match text with
  | none => .error .noFile
  | some text =>
    match Yaml.read text with
    | .error failure => .error (.unread failure)
    | .ok v => ofValue v rules

end DefinitionSet

end DroneTactics
