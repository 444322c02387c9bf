import DroneTactics.Definition.Validation
import Mathlib.Data.List.Perm.Basic

/-!
What the validity of a set says. The check goes through the cards one after another and keeps
the ids it has met, but what it decides has no order in it: a set is valid if its cards and
abilities are consistent each by itself and no two cards go by one id. There is a report unless
an upgrade takes so few slots that their number is not written.
-/

namespace DroneTactics

variable {lanes : List LaneId} {c : Card} {cards cards' : List Card}
  {abilities abilities' : List Ability} {seen : List String}

theorem Aim.ofName?_eq_some_iff {word : String} {a : Aim} :
    ofName? word = some a ↔ word = a.name := by
  constructor
  · intro h
    unfold ofName? at h
    split at h <;> cases h <;> rfl
  · rintro rfl
    exact ofName?_name a

theorem ConditionKind.ofName?_eq_some_iff {word : String} {k : ConditionKind} :
    ofName? word = some k ↔ word = k.name := by
  constructor
  · intro h
    unfold ofName? at h
    split at h <;> cases h <;> rfl
  · rintro rfl
    exact ofName?_name k

theorem Targeting.aim?_eq_some_iff {t : Targeting} {a : Aim} :
    t.aim? = some a ↔ t.type = a.name :=
  Aim.ofName?_eq_some_iff

theorem PlayCondition.kind?_eq_some_iff {condition : PlayCondition} {k : ConditionKind} :
    condition.kind? = some k ↔ condition.type = k.name :=
  ConditionKind.ofName?_eq_some_iff

/-! ### Consistent sets -/

structure Card.Consistent (c : Card) (lanes : List LaneId) : Prop where
  named : c.name ≠ ""
  /-- An upgrade takes a slot and can be applied. -/
  upgrade : c.type = "Upgrade" → 1 ≤ c.slots ∧ ∀ n ∈ c.maxApplications, 1 ≤ n
  /-- What moves to pay for the card is a drone. -/
  cost : ∀ cost ∈ c.extraCost, cost.type = "SINGLE_MOVE" ∨ cost.type = "MULTI_MOVE" →
    cost.targeting.type = "DRONE"
  /-- There are lanes to control. -/
  condition : ∀ condition ∈ c.condition, condition.type = "CONTROL_LANES" →
    condition.lanes ≠ [] ∧ ∀ lane ∈ condition.lanes, lane ∈ lanes

/-- Definitions that fit together: every card and ability can be called something, and no two
cards have one id. -/
structure Consistent (cards : List Card) (abilities : List Ability) (lanes : List LaneId) :
    Prop where
  identified : ∀ c ∈ cards, c.id ≠ ""
  distinct : (cards.map Card.id).Nodup
  cards : ∀ c ∈ cards, c.Consistent lanes
  abilities : ∀ a ∈ abilities, a.name ≠ ""

/-- Fewer definitions, in whatever order, fit together as well if no card is repeated. -/
theorem Consistent.of_subset (consistent : Consistent cards abilities lanes)
    (fewer : cards' ⊆ cards) (distinct : (cards'.map Card.id).Nodup)
    (fewer' : abilities' ⊆ abilities) : Consistent cards' abilities' lanes where
  identified c mem := consistent.identified c (fewer mem)
  distinct := distinct
  cards c mem := consistent.cards c (fewer mem)
  abilities a mem := consistent.abilities a (fewer' mem)

theorem Consistent.sublist (consistent : Consistent cards abilities lanes)
    (fewer : cards'.Sublist cards) (fewer' : abilities'.Sublist abilities) :
    Consistent cards' abilities' lanes :=
  consistent.of_subset fewer.subset ((fewer.map Card.id).nodup consistent.distinct) fewer'.subset

theorem Consistent.perm (consistent : Consistent cards abilities lanes)
    (perm : cards'.Perm cards) (perm' : abilities'.Perm abilities) :
    Consistent cards' abilities' lanes :=
  consistent.of_subset perm.subset ((perm.map Card.id).nodup_iff.2 consistent.distinct) perm'.subset

/-! ### The defects of one card -/

theorem upgradeDefects_eq_nil_iff : c.upgradeDefects = [] ↔
    (c.type = "Upgrade" → 1 ≤ c.slots ∧ ∀ n ∈ c.maxApplications, 1 ≤ n) := by
  by_cases upgrade : c.type = "Upgrade"
  · cases often : c.maxApplications with
    | none => simp [Card.upgradeDefects, Card.isUpgrade, upgrade, often]
    | some n => simp [Card.upgradeDefects, Card.isUpgrade, upgrade, often]
  · simp [Card.upgradeDefects, Card.isUpgrade, upgrade]

theorem ExtraCost.isMovement_iff {cost : ExtraCost} :
    cost.isMovement = true ↔ cost.type = "SINGLE_MOVE" ∨ cost.type = "MULTI_MOVE" := by
  simp [ExtraCost.isMovement, movementWords]

theorem costDefects_eq_nil_iff : c.costDefects = [] ↔
    ∀ cost ∈ c.extraCost, cost.type = "SINGLE_MOVE" ∨ cost.type = "MULTI_MOVE" →
      cost.targeting.type = "DRONE" := by
  cases costs : c.extraCost with
  | none => simp [Card.costDefects, costs]
  | some cost =>
    simp [Card.costDefects, costs, ExtraCost.isMovement_iff, Targeting.aim?_eq_some_iff, Aim.name]

theorem conditionDefects_eq_nil_iff : c.conditionDefects lanes = [] ↔
    ∀ condition ∈ c.condition, condition.type = "CONTROL_LANES" →
      condition.lanes ≠ [] ∧ ∀ lane ∈ condition.lanes, lane ∈ lanes := by
  cases asks : c.condition with
  | none => simp [Card.conditionDefects, asks]
  | some condition =>
    simp [Card.conditionDefects, asks, PlayCondition.kind?_eq_some_iff, ConditionKind.name]

theorem Card.defects_eq_nil_iff : c.defects lanes = [] ↔ c.Consistent lanes := by
  simp only [Card.defects, List.append_eq_nil_iff, upgradeDefects_eq_nil_iff,
    costDefects_eq_nil_iff, conditionDefects_eq_nil_iff]
  constructor
  · rintro ⟨⟨⟨named, upgrade⟩, cost⟩, condition⟩
    exact ⟨by simpa using named, upgrade, cost, condition⟩
  · rintro ⟨named, upgrade, cost, condition⟩
    exact ⟨⟨⟨if_neg named, upgrade⟩, cost⟩, condition⟩

theorem idDefects_eq_nil_iff : c.idDefects seen = [] ↔ c.id ≠ "" ∧ c.id ∉ seen := by
  unfold Card.idDefects
  split
  case isTrue empty => simp [empty]
  case isFalse written => simp [written]

/-! ### The defects of a set -/

/-- A list of cards after some ids has no defects if and only if its cards are consistent, their
ids are written, and no id is repeated or was there before. -/
theorem cardDefects_eq_nil_iff : cardDefects lanes cards seen = [] ↔
    (∀ c ∈ cards, c.id ≠ "" ∧ c.id ∉ seen) ∧ (cards.map Card.id).Nodup ∧
      ∀ c ∈ cards, c.Consistent lanes := by
  induction cards generalizing seen with
  | nil => simp [cardDefects]
  | cons first rest ih =>
      -- The first id is met by the later cards, and so it is not one of theirs.
      have met : (∀ c ∈ rest, c.id ≠ "" ∧ c.id ∉ first.id :: seen) ↔
          (∀ c ∈ rest, c.id ≠ "" ∧ c.id ∉ seen) ∧ first.id ∉ rest.map Card.id := by
        simp only [List.mem_cons, List.mem_map, not_or, not_exists, not_and, ← forall_and]
        exact forall₂_congr fun c _ => by tauto
      simp only [cardDefects, List.append_eq_nil_iff, idDefects_eq_nil_iff,
        Card.defects_eq_nil_iff, ih, List.forall_mem_cons, List.map_cons, List.nodup_cons, met]
      tauto

theorem Ability.defects_eq_nil_iff {a : Ability} : a.defects = [] ↔ a.name ≠ "" := by
  simp [Ability.defects]

theorem valid_iff : (validate cards abilities lanes).valid = true ↔
    Consistent cards abilities lanes := by
  simp only [Report.valid, validate, defects, List.isEmpty_iff, List.append_eq_nil_iff,
    cardDefects_eq_nil_iff, List.flatMap_eq_nil_iff, Ability.defects_eq_nil_iff]
  constructor
  · rintro ⟨⟨ids, distinct, each⟩, named⟩
    exact ⟨fun c mem => (ids c mem).1, distinct, each, named⟩
  · rintro ⟨ids, distinct, each, named⟩
    exact ⟨⟨fun c mem => ⟨ids c mem, by simp⟩, distinct, each⟩, named⟩

/-! ### What is known of a card of a valid set -/

theorem nodup_ids_of_valid (valid : (validate cards abilities lanes).valid = true) :
    (cards.map Card.id).Nodup :=
  (valid_iff.1 valid).distinct

theorem consistent_of_valid (valid : (validate cards abilities lanes).valid = true)
    (mem : c ∈ cards) : c.Consistent lanes :=
  (valid_iff.1 valid).cards c mem

/-- In a valid set an upgrade card takes at least one slot, and may be applied at least once if
it says how often. -/
theorem amounts_of_valid (valid : (validate cards abilities lanes).valid = true) (mem : c ∈ cards)
    (upgrade : c.isUpgrade = true) : 1 ≤ c.slots ∧ ∀ n ∈ c.maxApplications, 1 ≤ n :=
  (consistent_of_valid valid mem).upgrade (by simpa [Card.isUpgrade] using upgrade)

/-- In a valid set a cost of moving is paid with drones. -/
theorem aim_of_valid (valid : (validate cards abilities lanes).valid = true) (mem : c ∈ cards)
    {cost : ExtraCost} (costs : c.extraCost = some cost) (moves : cost.isMovement = true) :
    cost.targeting.aim? = some .drone :=
  Targeting.aim?_eq_some_iff.2
    ((consistent_of_valid valid mem).cost cost costs (ExtraCost.isMovement_iff.1 moves))

/-- In a valid set a condition on control is about at least one lane, and about lanes that
exist. -/
theorem lanes_of_valid (valid : (validate cards abilities lanes).valid = true) (mem : c ∈ cards)
    {condition : PlayCondition} (asks : c.condition = some condition)
    (controls : condition.kind? = some .controlLanes) :
    condition.lanes ≠ [] ∧ ∀ lane ∈ condition.lanes, lane ∈ lanes :=
  (consistent_of_valid valid mem).condition condition asks
    (PlayCondition.kind?_eq_some_iff.1 controls)

/-! ### The wording of a report -/

/-- An upgrade that takes so few slots that their number is not written. -/
def Card.Unreportable (c : Card) : Prop :=
  c.type = "Upgrade" ∧ c.slots ≤ -(Nat.pow 10 Text.longest : Nat)

theorem Text.isSome_ofInt?_iff {n : Int} (small : n < 1) :
    (ofInt? n).isSome = true ↔ ¬n ≤ -(Nat.pow 10 longest : Nat) := by
  simp only [ofInt?, isWritable, Option.isSome_ite, decide_eq_true_eq]
  omega

theorem Card.upgradeDefects_worded_iff :
    (∀ d ∈ c.upgradeDefects, d.message?.isSome = true) ↔ ¬c.Unreportable := by
  have slots : (∀ d ∈ (if c.slots < 1 then [Defect.tooFewSlots c.id c.slots] else []),
      d.message?.isSome = true) ↔ ¬c.slots ≤ -(Nat.pow 10 Text.longest : Nat) := by
    split
    case isTrue few =>
        simp only [List.mem_singleton, forall_eq, Defect.message?, Option.isSome_map]
        exact Text.isSome_ofInt?_iff few
    case isFalse enough =>
        refine iff_of_true (fun d mem => absurd mem List.not_mem_nil) ?_
        omega
  have applications : ∀ d ∈ (if c.maxApplications.any (· < 1) then
      [Defect.tooFewApplications c.id] else []), d.message?.isSome = true := by
    split <;> simp [Defect.message?]
  unfold upgradeDefects isUpgrade
  split
  case isTrue upgrade =>
      rw [List.forall_mem_append, slots, and_iff_left applications, Unreportable,
        and_iff_right (of_decide_eq_true upgrade)]
  case isFalse other =>
      refine iff_of_true (fun d mem => absurd mem List.not_mem_nil) fun few => ?_
      exact other (decide_eq_true few.1)

/-- Only the slots of an upgrade can be without a wording. -/
theorem Card.defects_worded_iff : (∀ d ∈ c.defects lanes, d.message?.isSome = true) ↔
    ¬c.Unreportable := by
  have cost : ∀ d ∈ c.costDefects, d.message?.isSome = true := by
    unfold costDefects
    split
    case h_1 cost _ => split <;> simp [Defect.message?]
    case h_2 => simp
  have condition : ∀ d ∈ c.conditionDefects lanes, d.message?.isSome = true := by
    unfold conditionDefects
    split
    case h_1 condition _ =>
        split
        · simp only [List.forall_mem_append, List.forall_mem_map]
          refine ⟨?_, fun _ _ => rfl⟩
          split <;> simp [Defect.message?]
        · simp
    case h_2 => simp
  have name : ∀ d ∈ (if c.name = "" then [Defect.emptyCardName c.id] else []),
      d.message?.isSome = true := by
    split <;> simp [Defect.message?]
  simp only [defects, List.forall_mem_append, upgradeDefects_worded_iff]
  exact ⟨fun all => all.1.1.2, fun worded => ⟨⟨⟨name, worded⟩, cost⟩, condition⟩⟩

theorem cardDefects_worded_iff : (∀ d ∈ cardDefects lanes cards seen, d.message?.isSome = true) ↔
    ∀ c ∈ cards, ¬c.Unreportable := by
  induction cards generalizing seen with
  | nil => simp [cardDefects]
  | cons first rest ih =>
      have id : ∀ d ∈ first.idDefects seen, d.message?.isSome = true := by
        unfold Card.idDefects
        split_ifs <;> simp [Defect.message?]
      simp only [cardDefects, List.forall_mem_append, Card.defects_worded_iff, ih,
        List.forall_mem_cons]
      exact ⟨fun all => ⟨all.1.2, all.2⟩, fun worded => ⟨⟨id, worded.1⟩, worded.2⟩⟩

theorem isWritable_iff : (validate cards abilities lanes).isWritable = true ↔
    ∀ c ∈ cards, ¬c.Unreportable := by
  have abilities : ∀ d ∈ abilities.flatMap Ability.defects, d.message?.isSome = true := by
    intro d mem
    obtain ⟨a, -, mem⟩ := List.mem_flatMap.1 mem
    unfold Ability.defects at mem
    split at mem
    · rw [List.mem_singleton.1 mem]
      rfl
    · exact absurd mem List.not_mem_nil
  simp only [Report.isWritable, validate, defects, List.all_eq_true, List.forall_mem_append,
    cardDefects_worded_iff]
  exact and_iff_left abilities

/-- Upgrades of a consistent set take slots. -/
theorem Consistent.reportable (consistent : Consistent cards abilities lanes) :
    ¬∃ c ∈ cards, c.Unreportable := by
  rintro ⟨c, mem, upgrade, few⟩
  have taken := ((consistent.cards c mem).upgrade upgrade).1
  omega

/-! ### The verdict on a set -/

section

variable (unreportable : ∃ c ∈ cards, c.Unreportable) (abilities : List Ability)
  (lanes : List LaneId)

include unreportable

theorem check_of_unreportable : check cards abilities lanes = .error .unwritable := by
  obtain ⟨c, mem, unreportable⟩ := unreportable
  exact if_neg fun worded => isWritable_iff.1 worded c mem unreportable

theorem checkStrictly_of_unreportable :
    checkStrictly cards abilities lanes = .error .unwritable := by
  rw [checkStrictly, check_of_unreportable unreportable]
  rfl

end

section

variable (reportable : ¬∃ c ∈ cards, c.Unreportable) (abilities : List Ability)
  (lanes : List LaneId)

include reportable

theorem check_of_reportable :
    check cards abilities lanes = .ok (validate cards abilities lanes) :=
  if_pos (isWritable_iff.2 fun c mem here => reportable ⟨c, mem, here⟩)

theorem checkStrictly_of_reportable : checkStrictly cards abilities lanes =
    if (validate cards abilities lanes).valid then .ok (validate cards abilities lanes)
    else .error (.invalid (validate cards abilities lanes).defects) := by
  rw [checkStrictly, check_of_reportable reportable]
  rfl

end

theorem check_eq_ok_iff {report : Report} : check cards abilities lanes = .ok report ↔
    (¬∃ c ∈ cards, c.Unreportable) ∧ report = validate cards abilities lanes := by
  by_cases given : ∃ c ∈ cards, c.Unreportable
  · exact iff_of_false (by simp [check_of_unreportable given]) fun here => here.1 given
  · rw [check_of_reportable given, Except.ok.injEq, and_iff_right given, eq_comm]

theorem checkStrictly_eq_invalid_iff {found : List Defect} :
    checkStrictly cards abilities lanes = .error (.invalid found) ↔
      ¬Consistent cards abilities lanes ∧ (¬∃ c ∈ cards, c.Unreportable) ∧
        found = (validate cards abilities lanes).defects := by
  by_cases given : ∃ c ∈ cards, c.Unreportable
  · exact iff_of_false (by simp [checkStrictly_of_unreportable given]) fun here => here.2.1 given
  · rw [checkStrictly_of_reportable given, and_iff_right given, ← valid_iff]
    split
    case isTrue valid => simp [valid]
    case isFalse invalid => simp [invalid, eq_comm]

theorem checkStrictly_eq_ok_iff {report : Report} :
    checkStrictly cards abilities lanes = .ok report ↔
      Consistent cards abilities lanes ∧ report = validate cards abilities lanes := by
  by_cases given : ∃ c ∈ cards, c.Unreportable
  · exact iff_of_false (by simp [checkStrictly_of_unreportable given]) fun here =>
      here.1.reportable given
  · rw [checkStrictly_of_reportable given, ← valid_iff]
    split
    case isTrue valid => simp [valid, eq_comm]
    case isFalse invalid => simp [invalid]

theorem exists_valid_iff :
    (∃ report, check cards abilities lanes = .ok report ∧ report.valid = true) ↔
      Consistent cards abilities lanes := by
  constructor
  · rintro ⟨report, given, valid⟩
    rw [(check_eq_ok_iff.1 given).2] at valid
    exact valid_iff.1 valid
  · intro consistent
    exact ⟨_, check_of_reportable consistent.reportable _ _, valid_iff.2 consistent⟩

/-- The order of a set matters neither to whether there is a report nor to its verdict. -/
theorem check_valid_perm {cards' : List Card} {abilities' : List Ability}
    (perm : cards'.Perm cards) (perm' : abilities'.Perm abilities) :
    (check cards' abilities' lanes).map Report.valid =
      (check cards abilities lanes).map Report.valid := by
  have same : (∃ c ∈ cards', c.Unreportable) ↔ ∃ c ∈ cards, c.Unreportable := by
    simp only [perm.mem_iff]
  by_cases given : ∃ c ∈ cards, c.Unreportable
  · rw [check_of_unreportable given, check_of_unreportable (same.2 given)]
  · have verdict : (validate cards' abilities' lanes).valid =
        (validate cards abilities lanes).valid := by
      rw [Bool.eq_iff_iff, valid_iff, valid_iff]
      exact ⟨fun whole => whole.perm perm.symm perm'.symm, fun whole => whole.perm perm perm'⟩
    rw [check_of_reportable given, check_of_reportable (mt same.1 given)]
    exact congrArg Except.ok verdict

/-- A set is reported valid if and only if it is consistent. The order of a set does not matter,
nor does leaving something out of a valid one. A check gives the report, and a strict one refuses
the sets that are not valid with the defects of the report, except exactly when an upgrade takes
so few slots that their number is not written. -/
theorem validity_is_consistency (lanes : List LaneId) :
    (∀ cards abilities,
      (∃ report, check cards abilities lanes = .ok report ∧ report.valid = true) ↔
        Consistent cards abilities lanes) ∧
    (∀ cards abilities report, check cards abilities lanes = .ok report ↔
      (¬∃ c ∈ cards, c.Unreportable) ∧ report = validate cards abilities lanes) ∧
    (∀ cards abilities found, checkStrictly cards abilities lanes = .error (.invalid found) ↔
      ¬Consistent cards abilities lanes ∧ (¬∃ c ∈ cards, c.Unreportable) ∧
        found = (validate cards abilities lanes).defects) ∧
    (∀ cards abilities report, checkStrictly cards abilities lanes = .ok report ↔
      Consistent cards abilities lanes ∧ report = validate cards abilities lanes) ∧
    (∀ cards abilities, (∃ c ∈ cards, c.Unreportable) →
      check cards abilities lanes = .error .unwritable ∧
        checkStrictly cards abilities lanes = .error .unwritable) ∧
    (∀ cards cards' abilities abilities', cards'.Perm cards → abilities'.Perm abilities →
      (check cards' abilities' lanes).map Report.valid =
        (check cards abilities lanes).map Report.valid) ∧
    (∀ cards cards' abilities abilities' report, cards'.Sublist cards →
      abilities'.Sublist abilities → check cards abilities lanes = .ok report →
      report.valid = true →
      ∃ part, check cards' abilities' lanes = .ok part ∧ part.valid = true) := by
  refine ⟨fun _ _ => exists_valid_iff, fun _ _ _ => check_eq_ok_iff,
    fun _ _ _ => checkStrictly_eq_invalid_iff, fun _ _ _ => checkStrictly_eq_ok_iff, ?_,
    fun _ _ _ _ => check_valid_perm, ?_⟩
  · intro cards abilities given
    exact ⟨check_of_unreportable given _ _, checkStrictly_of_unreportable given _ _⟩
  · intro cards cards' abilities abilities' report fewer fewer' given valid
    have whole := exists_valid_iff.1 ⟨report, given, valid⟩
    exact exists_valid_iff.2 (whole.sublist fewer fewer')

def bulwark : Card where
  id := "BULWARK"
  name := "Bulwark"
  type := "Upgrade"
  slots := 2
  maxApplications := some 3

def sortie : Card where
  id := "SORTIE"
  name := "Sortie"
  extraCost := some { type := "SINGLE_MOVE", targeting := { type := "DRONE" } }
  condition := some { type := "CONTROL_LANES", lanes := ["lane2"] }

/-- The bulwark and the sortie fit together in either order, and each by itself. Where there is
no second lane the sortie is refused, and so is a second bulwark. -/
theorem bulwark_and_sortie_valid :
    let lanes := ["lane1", "lane2"]
    let whole := validate [bulwark, sortie] [{ name := "Scan" }] lanes
    check [bulwark, sortie] [{ name := "Scan" }] lanes = .ok whole ∧ whole.valid = true ∧
      Consistent [bulwark, sortie] [{ name := "Scan" }] lanes ∧
      [sortie, bulwark].Perm [bulwark, sortie] ∧
      (check [sortie, bulwark] [{ name := "Scan" }] lanes).map Report.valid = .ok true ∧
      [sortie].Sublist [bulwark, sortie] ∧
      (∃ part, check [sortie] [] lanes = .ok part ∧ part.valid = true) ∧
      checkStrictly [bulwark, sortie, bulwark] [] ["lane1"] =
        .error (.invalid [.unknownLane "SORTIE" "lane2", .duplicateId "BULWARK"]) ∧
      ¬Consistent [bulwark, sortie, bulwark] [] ["lane1"] := by
  intro lanes whole
  obtain ⟨decides, -, -, -, -, ordered, fewer⟩ := validity_is_consistency lanes
  obtain ⟨-, -, refused, -⟩ := validity_is_consistency ["lane1"]
  have given : check [bulwark, sortie] [{ name := "Scan" }] lanes = .ok whole := rfl
  have valid : whole.valid = true := rfl
  have swapped : [sortie, bulwark].Perm [bulwark, sortie] := .swap _ _ _
  have part : [sortie].Sublist [bulwark, sortie] := by simp
  have error : checkStrictly [bulwark, sortie, bulwark] [] ["lane1"] =
      .error (.invalid [.unknownLane "SORTIE" "lane2", .duplicateId "BULWARK"]) := rfl
  have verdict : (check [sortie, bulwark] [{ name := "Scan" }] lanes).map Report.valid =
      .ok true := by
    rw [ordered _ _ _ _ swapped (.refl _), given, Except.map, valid]
  exact ⟨given, valid, (decides _ _).1 ⟨whole, given, valid⟩, swapped, verdict, part,
    fewer _ _ _ _ whole part (List.nil_sublist _) given valid, error, ((refused _ _ _).1 error).1⟩

def abyss : Card where
  id := "ABYSS"
  name := "Abyss"
  type := "Upgrade"
  slots := -(Nat.pow 10 Text.longest : Nat)

/-- The abyss is not consistent, and no check of it, strict or not, gives its defect. -/
theorem abyss_unreported : ¬Consistent [abyss] [] ["lane1"] ∧
    check [abyss] [] ["lane1"] = .error .unwritable ∧
    checkStrictly [abyss] [] ["lane1"] = .error .unwritable := by
  have given : ∃ c ∈ [abyss], c.Unreportable :=
    ⟨abyss, List.mem_singleton.2 rfl, rfl, Int.le_refl _⟩
  exact ⟨fun consistent => consistent.reportable given, check_of_unreportable given _ _,
    checkStrictly_of_unreportable given _ _⟩

end DroneTactics
