import DroneTactics.Definition.Load
import DroneTactics.Proofs.Definition.Reading
import DroneTactics.Proofs.Definition.Validity
import Mathlib.Data.List.Nodup

/-!
A data file is loaded whole or not at all. If each of its entries can be read the set holds
them all in file order. If not, every problem of every entry is reported, the cards' before the
abilities', as if each entry were read alone; only when a number that names such an entry is too
long to be written nothing is reported. That rests on a refusal never being empty. Under rules
the set must be valid as well, and then a card is found under its id.
-/

namespace DroneTactics

def Entries.listed? (entries : Entries) (name : String) : Option (List Value) :=
  match entries.named? name with
  | none => some []
  | some .null => some []
  | some v =>
    match v.bare with
    | .list vs => some vs
    | _ => none

def Value.sections? (v : Value) : Option (List Value × List Value) :=
  match v.bare with
  | .map entries => do
    let cards ← Entries.listed? entries "cards"
    let abilities ← Entries.listed? entries "abilities"
    pure (cards, abilities)
  | _ => none

theorem Value.sections?_eq_some_iff {v : Value} {cards abilities : List Value} :
    v.sections? = some (cards, abilities) ↔ ∃ entries : Entries, v.bare = .map entries ∧
      entries.listed? "cards" = some cards ∧ entries.listed? "abilities" = some abilities := by
  unfold sections?
  split
  case h_1 entries bare =>
      simp [Option.bind_eq_some_iff, bare]
  case h_2 other => exact iff_of_false nofun fun ⟨entries, bare, _⟩ => other entries bare

theorem Value.elements?_of_bare {v : Value} {vs : List Value} (bare : v.bare = .list vs) :
    v.elements? = some vs ∧ v.isBlank = vs.isEmpty := by
  unfold Value.bare at bare
  split at bare <;> subst bare <;> exact ⟨rfl, rfl⟩

theorem sectionEntries_of_listed? {entries : Entries} {name : String} {vs : List Value}
    (listed : entries.listed? name = some vs) : sectionEntries entries name = .ok vs := by
  unfold Entries.listed? at listed
  split at listed
  case h_1 absent =>
      cases listed
      simp [sectionEntries, absent, Value.isBlank, Atom.isBlank]
  case h_2 blank =>
      cases listed
      simp [sectionEntries, blank, Value.isBlank, Atom.isBlank]
  case h_3 v _ found =>
      split at listed
      case h_1 items bare =>
          cases listed
          obtain ⟨elements, blank⟩ := Value.elements?_of_bare bare
          simp only [sectionEntries, found, Option.getD_some, elements, blank]
          split
          case isTrue empty => rw [List.isEmpty_iff.1 empty]
          case isFalse => rfl
      case h_2 => cases listed

/-! ### Refusals -/

namespace EntryKind

variable {α : Type} {kind : EntryKind} {v : Value} {read : Decoded α}

/-- An entry is never refused without a reason. -/
theorem judge_ne_refused_nil (explained : read.Explained) :
    kind.judge v read ≠ .error (.refused []) := by
  cases read with
  | ok a => exact nofun
  | failed problems =>
      have reasons := Decoded.explained_failed_iff.1 explained
      unfold judge
      cases kind.label? v with
      | none => exact nofun
      | some label => simpa using reasons

theorem judge_eq_unwritable_iff : kind.judge v read = .error .unwritable ↔
    (∃ problems, read = .failed problems) ∧ kind.label? v = none := by
  cases read with
  | ok a => exact iff_of_false nofun nofun
  | failed problems => cases named : kind.label? v <;> simp [judge, named]

end EntryKind

theorem Card.parse_ne_refused_nil (v : Value) : parse v ≠ .error (.refused []) :=
  EntryKind.judge_ne_refused_nil (explains_ofValue v)

theorem Ability.parse_ne_refused_nil (v : Value) : parse v ≠ .error (.refused []) :=
  EntryKind.judge_ne_refused_nil (explains_ofValue v)

def refusalsOf {α : Type} : Except EntryFailure α → List Refusal
  | .error (.refused refusals) => refusals
  | _ => []

section

variable {α : Type} {parse : Value → Except EntryFailure α} {vs : List Value}

theorem refusalsOf_eq_nil_iff {result : Except EntryFailure α}
    (reason : result ≠ .error (.refused [])) (written : result ≠ .error .unwritable) :
    refusalsOf result = [] ↔ ∃ a, result = .ok a := by
  cases result with
  | ok a => exact iff_of_true rfl ⟨a, rfl⟩
  | error failure =>
      cases failure with
      | refused refusals =>
          exact iff_of_false (fun empty : refusals = [] => reason (by rw [empty])) nofun
      | unwritable => exact absurd rfl written

theorem flatMap_refusalsOf_eq_nil_iff (reasons : ∀ v, parse v ≠ .error (.refused []))
    (written : ¬∃ v ∈ vs, parse v = .error .unwritable) :
    (vs.flatMap fun v => refusalsOf (parse v)) = [] ↔ ∀ v ∈ vs, ∃ a, parse v = .ok a := by
  rw [List.flatMap_eq_nil_iff]
  exact forall₂_congr fun v mem =>
    refusalsOf_eq_nil_iff (reasons v) fun failed => written ⟨v, mem, failed⟩

theorem exists_map_ok_iff :
    (∃ read : List α, vs.map parse = read.map .ok) ↔ ∀ v ∈ vs, ∃ a, parse v = .ok a := by
  constructor
  · rintro ⟨read, same⟩ v mem
    have mem : parse v ∈ read.map .ok := same ▸ List.mem_map_of_mem mem
    obtain ⟨a, -, here⟩ := List.mem_map.1 mem
    exact ⟨a, here.symm⟩
  · intro readable
    induction vs with
    | nil => exact ⟨[], rfl⟩
    | cons v vs ih =>
        obtain ⟨a, here⟩ := readable v List.mem_cons_self
        obtain ⟨read, later⟩ := ih fun w mem => readable w (List.mem_cons_of_mem v mem)
        exact ⟨a :: read, by rw [List.map_cons, here, later, List.map_cons]⟩

theorem collect_of_map_ok {read : List α} (same : vs.map parse = read.map .ok) :
    collect parse vs = .ok (read, []) := by
  induction vs generalizing read with
  | nil =>
      obtain rfl := List.map_eq_nil_iff.1 same.symm
      rfl
  | cons v vs ih =>
      obtain ⟨a, later, rfl, first, rest⟩ := List.map_eq_cons_iff.1 same.symm
      rw [collect, ← first, ih rest.symm]
      rfl

/-- Each entry is refused as if it were read alone. -/
theorem exists_collect_eq (written : ¬∃ v ∈ vs, parse v = .error .unwritable) :
    ∃ good, collect parse vs = .ok (good, vs.flatMap fun v => refusalsOf (parse v)) := by
  induction vs with
  | nil => exact ⟨[], rfl⟩
  | cons v vs ih =>
      obtain ⟨good, later⟩ := ih fun ⟨w, mem, failed⟩ => written ⟨w, .tail v mem, failed⟩
      rw [collect, later, List.flatMap_cons]
      split
      case h_1 a first => exact ⟨a :: good, by rw [first]; rfl⟩
      case h_2 refusals first => exact ⟨good, by rw [first]; rfl⟩
      case h_3 failed => exact absurd ⟨v, .head vs, failed⟩ written

theorem collect_of_unwritable (unwritable : ∃ v ∈ vs, parse v = .error .unwritable) :
    collect parse vs = .error .unwritable := by
  induction vs with
  | nil => simp at unwritable
  | cons v vs ih =>
      rw [collect]
      split
      case h_3 => rfl
      all_goals
        rename_i first
        have later : ∃ w ∈ vs, parse w = .error .unwritable := by
          simpa [first] using unwritable
        rw [ih later]
        rfl

end

/-- What is refused of some entries, each of them read alone: cards first, in their order. -/
def refusalsIn (cards abilities : List Value) : List Refusal :=
  cards.flatMap (fun v => refusalsOf (Card.parse v)) ++
    abilities.flatMap fun v => refusalsOf (Ability.parse v)

/-- Some entry cannot be read, and what names it cannot be written. -/
def UnwritableIn (cards abilities : List Value) : Prop :=
  (∃ v ∈ cards, Card.parse v = .error .unwritable) ∨
    ∃ v ∈ abilities, Ability.parse v = .error .unwritable

/-- Entries can all be reported if what names them can be written. -/
theorem not_unwritableIn_of_labels {cards abilities : List Value}
    (cardLabels : ∀ v ∈ cards, (EntryKind.card.label? v).isSome = true)
    (abilityLabels : ∀ v ∈ abilities, (EntryKind.ability.label? v).isSome = true) :
    ¬UnwritableIn cards abilities := by
  rintro (⟨v, mem, failed⟩ | ⟨v, mem, failed⟩)
  · have named := cardLabels v mem
    simp [(EntryKind.judge_eq_unwritable_iff.1 failed).2] at named
  · have named := abilityLabels v mem
    simp [(EntryKind.judge_eq_unwritable_iff.1 failed).2] at named

theorem refusalsIn_eq_nil_iff {cards abilities : List Value}
    (written : ¬UnwritableIn cards abilities) : refusalsIn cards abilities = [] ↔
      (∀ v ∈ cards, ∃ c, Card.parse v = .ok c) ∧
        ∀ v ∈ abilities, ∃ a, Ability.parse v = .ok a := by
  obtain ⟨cardsWritten, abilitiesWritten⟩ := not_or.1 written
  rw [refusalsIn, List.append_eq_nil_iff,
    flatMap_refusalsOf_eq_nil_iff Card.parse_ne_refused_nil cardsWritten,
    flatMap_refusalsOf_eq_nil_iff Ability.parse_ne_refused_nil abilitiesWritten]

/-! ### Sets -/

/-- A set is what some entries for cards and some for abilities are read as, each of them and in
their order. -/
structure DefinitionSet.ReadFrom (set : DefinitionSet) (cards abilities : List Value) : Prop where
  cards : cards.map Card.parse = set.cards.map .ok
  abilities : abilities.map Ability.parse = set.abilities.map .ok

namespace DefinitionSet

variable {set : DefinitionSet} {entries : Entries} {v : Value} {text : String}
  {cards abilities : List Value} {rules : Rules}

theorem exists_readFrom_iff : (∃ set : DefinitionSet, set.ReadFrom cards abilities) ↔
    (∀ v ∈ cards, ∃ c, Card.parse v = .ok c) ∧ ∀ v ∈ abilities, ∃ a, Ability.parse v = .ok a := by
  rw [← exists_map_ok_iff, ← exists_map_ok_iff]
  constructor
  · rintro ⟨set, reads⟩
    exact ⟨⟨_, reads.cards⟩, ⟨_, reads.abilities⟩⟩
  · rintro ⟨⟨readCards, cards⟩, ⟨readAbilities, abilities⟩⟩
    exact ⟨⟨readCards, readAbilities⟩, cards, abilities⟩

theorem readFrom_or_refused (written : ¬UnwritableIn cards abilities) :
    (∃ set : DefinitionSet, set.ReadFrom cards abilities) ∨ refusalsIn cards abilities ≠ [] := by
  rw [exists_readFrom_iff, ← refusalsIn_eq_nil_iff written]
  exact Decidable.em _

theorem ReadFrom.written (reads : set.ReadFrom cards abilities) :
    ¬UnwritableIn cards abilities := by
  obtain ⟨cards, abilities⟩ := exists_readFrom_iff.1 ⟨set, reads⟩
  rintro (⟨v, mem, failed⟩ | ⟨v, mem, failed⟩)
  · obtain ⟨c, given⟩ := cards v mem
    cases failed.symm.trans given
  · obtain ⟨a, given⟩ := abilities v mem
    cases failed.symm.trans given

section

variable (listsCards : entries.listed? "cards" = some cards)
  (listsAbilities : entries.listed? "abilities" = some abilities)

include listsCards listsAbilities

theorem ofEntries_of_readFrom (reads : set.ReadFrom cards abilities) :
    ofEntries entries = .ok set := by
  rw [ofEntries, sectionEntries_of_listed? listsCards, sectionEntries_of_listed? listsAbilities]
  simp only [bind, Except.bind, collect_of_map_ok reads.cards, collect_of_map_ok reads.abilities]
  rfl

theorem ofEntries_of_refused (written : ¬UnwritableIn cards abilities)
    (refused : refusalsIn cards abilities ≠ []) :
    ofEntries entries = .error (.refused (refusalsIn cards abilities)) := by
  obtain ⟨cardsWritten, abilitiesWritten⟩ := not_or.1 written
  obtain ⟨goodCards, collectsCards⟩ := exists_collect_eq cardsWritten
  obtain ⟨goodAbilities, collectsAbilities⟩ := exists_collect_eq abilitiesWritten
  rw [ofEntries, sectionEntries_of_listed? listsCards, sectionEntries_of_listed? listsAbilities]
  simp only [bind, Except.bind, collectsCards, collectsAbilities]
  rw [← refusalsIn]
  split
  case h_1 empty => exact absurd empty refused
  case h_2 => rfl

theorem ofEntries_of_unwritable (unwritable : UnwritableIn cards abilities) :
    ofEntries entries = .error .unwritable := by
  rw [ofEntries, sectionEntries_of_listed? listsCards, sectionEntries_of_listed? listsAbilities]
  by_cases first : ∃ v ∈ cards, Card.parse v = .error .unwritable
  · simp only [bind, Except.bind, collect_of_unwritable first]
  · obtain ⟨good, collects⟩ := exists_collect_eq first
    simp only [bind, Except.bind, collects, collect_of_unwritable (unwritable.resolve_left first)]

end

theorem checked_of_reportable (reportable : ¬∃ c ∈ set.cards, c.Unreportable) (rules : Rules) :
    set.checked rules =
      if (validate set.cards set.abilities rules.lanes).defects = [] then .ok set
      else .error (.invalid (validate set.cards set.abilities rules.lanes).defects) := by
  rw [checked, checkStrictly_of_reportable reportable]
  by_cases clean : (validate set.cards set.abilities rules.lanes).defects = []
  · simp [Report.valid, clean]
  · simp [Report.valid, clean]

theorem checked_of_unreportable (unreportable : ∃ c ∈ set.cards, c.Unreportable)
    (rules : Rules) : set.checked rules = .error .unwritable := by
  rw [checked, checkStrictly_of_unreportable unreportable]

/-- A set whose cards have distinct ids has each of them under its id. -/
theorem card?_of_nodup (distinct : (set.cards.map Card.id).Nodup) {c : Card}
    (mem : c ∈ set.cards) : set.card? c.id = some c := by
  cases found : set.card? c.id with
  | none =>
      have absent := List.find?_eq_none.1 found c mem
      simp at absent
  | some first =>
      have same : first.id = c.id := by simpa using List.find?_some found
      rw [List.inj_on_of_nodup_map distinct (List.mem_of_find?_eq_some found) mem same]

/-! ### Files -/

section

variable (read : Yaml.read text = .ok v) (sections : v.sections? = some (cards, abilities))

include read sections

/-- A file whose entries can all be read gives the set that they are read as, if no rules forbid
it. -/
theorem ofText_of_readFrom (reads : set.ReadFrom cards abilities) :
    ofText (some text) none = .ok set ∧
      ∀ rules, ofText (some text) (some rules) = set.checked rules := by
  obtain ⟨entries, bare, listsCards, listsAbilities⟩ := Value.sections?_eq_some_iff.1 sections
  have whole := ofEntries_of_readFrom listsCards listsAbilities reads
  simp only [ofText, read, ofValue, bare, whole]
  exact ⟨rfl, fun _ => rfl⟩

/-- A file of which some entry cannot be read gives no set under any rules or none. -/
theorem ofText_of_refused (written : ¬UnwritableIn cards abilities)
    (refused : refusalsIn cards abilities ≠ []) (rules : Option Rules) :
    ofText (some text) rules = .error (.refused (refusalsIn cards abilities)) := by
  obtain ⟨entries, bare, listsCards, listsAbilities⟩ := Value.sections?_eq_some_iff.1 sections
  have whole := ofEntries_of_refused listsCards listsAbilities written refused
  simp only [ofText, read, ofValue, bare, whole]
  rfl

theorem ofText_of_unwritable (unwritable : UnwritableIn cards abilities)
    (rules : Option Rules) : ofText (some text) rules = .error .unwritable := by
  obtain ⟨entries, bare, listsCards, listsAbilities⟩ := Value.sections?_eq_some_iff.1 sections
  have whole := ofEntries_of_unwritable listsCards listsAbilities unwritable
  simp only [ofText, read, ofValue, bare, whole]
  rfl

/-- What loads was read, whatever the rules. -/
theorem exists_readFrom_of_ofText {rules : Option Rules} {found : DefinitionSet}
    (loaded : ofText (some text) rules = .ok found) :
    ∃ set : DefinitionSet, set.ReadFrom cards abilities := by
  by_cases written : UnwritableIn cards abilities
  · rw [ofText_of_unwritable read sections written] at loaded
    cases loaded
  · refine (readFrom_or_refused written).resolve_right fun refused => ?_
    rw [ofText_of_refused read sections written refused] at loaded
    cases loaded

theorem ofText_eq_ok_iff : ofText (some text) none = .ok set ↔ set.ReadFrom cards abilities := by
  refine ⟨fun loaded => ?_, fun reads => (ofText_of_readFrom read sections reads).1⟩
  obtain ⟨set', reads⟩ := exists_readFrom_of_ofText read sections loaded
  obtain rfl := Except.ok.inj (loaded.symm.trans (ofText_of_readFrom read sections reads).1)
  exact reads

theorem ofText_eq_ok_iff_of_rules : ofText (some text) (some rules) = .ok set ↔
    set.ReadFrom cards abilities ∧
      (validate set.cards set.abilities rules.lanes).defects = [] := by
  constructor
  · intro loaded
    obtain ⟨set', reads⟩ := exists_readFrom_of_ofText read sections loaded
    rw [(ofText_of_readFrom read sections reads).2] at loaded
    by_cases reportable : ∃ c ∈ set'.cards, c.Unreportable
    · rw [checked_of_unreportable reportable] at loaded
      cases loaded
    · rw [checked_of_reportable reportable] at loaded
      split at loaded
      case isTrue clean =>
          obtain rfl := Except.ok.inj loaded
          exact ⟨reads, clean⟩
      case isFalse => cases loaded
  · rintro ⟨reads, clean⟩
    have consistent : Consistent set.cards set.abilities rules.lanes :=
      valid_iff.1 (by rw [Report.valid, clean]; rfl)
    rw [(ofText_of_readFrom read sections reads).2, checked_of_reportable consistent.reportable,
      if_pos clean]

end

/-- Loading is all or nothing, reports every problem, and loses no card. A file with sections
for cards and abilities gives a set if and only if every entry can be read, and then those
readings in file order; otherwise all that is refused of each entry alone is reported, in file
order and the cards first, unless an entry that is refused has a name too long to be written.
Under rules the set must be free of defects as well, or they are reported, unless one is too
long to be written; and each card of a set that is loaded under rules is found under its id. -/
theorem loads_all_or_reports_all (read : Yaml.read text = .ok v)
    (sections : v.sections? = some (cards, abilities)) :
    ((∃ set, ofText (some text) none = .ok set) ↔
      (∀ v ∈ cards, ∃ c, Card.parse v = .ok c) ∧
        ∀ v ∈ abilities, ∃ a, Ability.parse v = .ok a) ∧
    (∀ set, ofText (some text) none = .ok set →
      cards.map Card.parse = set.cards.map .ok ∧
        abilities.map Ability.parse = set.abilities.map .ok) ∧
    (¬UnwritableIn cards abilities → (¬∃ set, ofText (some text) none = .ok set) →
      ∀ rules, ofText (some text) rules =
        .error (.refused (cards.flatMap (fun v => refusalsOf (Card.parse v)) ++
          abilities.flatMap fun v => refusalsOf (Ability.parse v)))) ∧
    (UnwritableIn cards abilities → ∀ rules, ofText (some text) rules = .error .unwritable) ∧
    (∀ rules set, ofText (some text) (some rules) = .ok set ↔
      ofText (some text) none = .ok set ∧
        (validate set.cards set.abilities rules.lanes).defects = []) ∧
    (∀ rules set, ofText (some text) none = .ok set → (¬∃ c ∈ set.cards, c.Unreportable) →
      (validate set.cards set.abilities rules.lanes).defects ≠ [] →
      ofText (some text) (some rules) =
        .error (.invalid (validate set.cards set.abilities rules.lanes).defects)) ∧
    (∀ rules set, ofText (some text) none = .ok set → (∃ c ∈ set.cards, c.Unreportable) →
      ofText (some text) (some rules) = .error .unwritable) ∧
    ∀ rules set, ofText (some text) (some rules) = .ok set →
      ∀ c ∈ set.cards, set.card? c.id = some c := by
  have loaded : ∀ set, ofText (some text) none = .ok set ↔ set.ReadFrom cards abilities :=
    fun _ => ofText_eq_ok_iff read sections
  refine ⟨?_, ?_, ?_, fun unwritable => ofText_of_unwritable read sections unwritable,
    ?_, ?_, ?_, ?_⟩
  · rw [← exists_readFrom_iff]
    exact exists_congr loaded
  · intro set given
    obtain ⟨fromCards, fromAbilities⟩ := (loaded set).1 given
    exact ⟨fromCards, fromAbilities⟩
  · intro written fails rules
    have refused := (readFrom_or_refused written).resolve_left fun ⟨set, reads⟩ =>
      fails ⟨set, (loaded set).2 reads⟩
    exact ofText_of_refused read sections written refused rules
  · intro rules set
    rw [ofText_eq_ok_iff_of_rules read sections, loaded]
  · intro rules set given reportable defective
    rw [(ofText_of_readFrom read sections ((loaded set).1 given)).2,
      checked_of_reportable reportable, if_neg defective]
  · intro rules set given unreportable
    rw [(ofText_of_readFrom read sections ((loaded set).1 given)).2,
      checked_of_unreportable unreportable]
  · intro rules set given c mem
    have clean := ((ofText_eq_ok_iff_of_rules read sections).1 given).2
    have valid : (validate set.cards set.abilities rules.lanes).valid = true := by
      rw [Report.valid, clean]
      rfl
    exact card?_of_nodup (nodup_ids_of_valid valid) mem

def draft : String := "cards:\n- id: A\n  name: B\n- id: C\nabilities:\n- type: X\n"

/-- The draft is refused for its second card and for its ability. -/
theorem draft_refused : ∃ v cards abilities, Yaml.read draft = .ok v ∧
    v.sections? = some (cards, abilities) ∧
    ∃ refusals, ofText (some draft) none = .error (.refused refusals) ∧
      refusals.map Refusal.message = ["Card 'C': ('name',): Field required",
        "Ability '<no name>': ('name',): Field required"] := by
  have report : (((Yaml.read draft).toOption.bind Value.sections?).map fun (cards, abilities) =>
      ((refusalsIn cards abilities).map Refusal.message,
        cards.map fun v => (EntryKind.card.label? v).isSome,
        abilities.map fun v => (EntryKind.ability.label? v).isSome)) =
      some (["Card 'C': ('name',): Field required",
        "Ability '<no name>': ('name',): Field required"], [true, true], [true]) := by
    decide +kernel
  obtain ⟨⟨cards, abilities⟩, found, parts⟩ := Option.map_eq_some_iff.1 report
  obtain ⟨messages, cardLabels, abilityLabels⟩ := by simpa only [Prod.mk.injEq] using parts
  obtain ⟨v, given, sections⟩ := Option.bind_eq_some_iff.1 found
  have read : Yaml.read draft = .ok v := by
    cases said : Yaml.read draft with
    | ok w => rw [said] at given; rw [Option.some.inj given]
    | error failure => rw [said] at given; cases given
  have written : ¬UnwritableIn cards abilities := by
    refine not_unwritableIn_of_labels (fun w mem => ?_) fun w mem => ?_
    · have known := cardLabels ▸ List.mem_map_of_mem mem
      simpa using known
    · have known := abilityLabels ▸ List.mem_map_of_mem mem
      simpa using known
  obtain ⟨whole, -, refused, -⟩ := loads_all_or_reports_all read sections
  refine ⟨v, cards, abilities, read, sections, _, refused written (fun given => ?_) none, messages⟩
  have nothing : refusalsIn cards abilities = [] :=
    (refusalsIn_eq_nil_iff written).2 (whole.1 given)
  simp [nothing] at messages

def numbered (n : Int) : Value := .map [(.str "id", .int n), (.str "name", .str "Atlas")]

/-- An entry that is refused for its id alone is not reported if that has too many digits. -/
theorem numbered_unreported :
    let v := numbered (Nat.pow 16 3600 - 1 : Nat)
    Card.ofValue v = .failed [⟨[.name "id"], .notText⟩] ∧
      Value.sections? (.map [(.str "cards", .list [v])]) = some ([v], []) ∧
      ∀ rules, ofValue (.map [(.str "cards", .list [v])]) rules = .error .unwritable := by
  intro v
  have refused : Card.ofValue v = .failed [⟨[.name "id"], .notText⟩] := rfl
  have long : Text.ofInt? (Nat.pow 16 3600 - 1 : Nat) = none := by decide +kernel
  have failed : Card.parse v = .error .unwritable :=
    EntryKind.judge_eq_unwritable_iff.2 ⟨⟨_, refused⟩, long⟩
  refine ⟨refused, rfl, fun rules => ?_⟩
  have whole : ofEntries [(.str "cards", .list [v])] = .error .unwritable :=
    ofEntries_of_unwritable rfl rfl (.inl ⟨v, List.mem_singleton.2 rfl, failed⟩)
  simp only [ofValue, Value.bare, whole]
  rfl

end DefinitionSet

end DroneTactics
