import DroneTactics.Definition.Validation
import DroneTactics.Proofs.Targeting.Scope
import DroneTactics.Proofs.Targeting.Standing
import Mathlib.Data.List.ReduceOption

/-!
Second rules that find something. The check of a set of definitions looks at the words of a
second rule one by one, and the search for second targets at their combination: lanes next to
the first target or named by their ids, and drones in the lane of the first target. Every rule
that finds something on some boards is free of doubts. A rule that is free of doubts finds
something on some boards, unless its words are known and do not go together.
-/

namespace DroneTactics

namespace SecondaryTargeting

def Names (rule : SecondaryTargeting) (lanes : List LaneId) : Prop :=
  ∃ word ∈ lanes, rule.location = some word

/-- The combinations of words that the search for second targets knows. -/
inductive Matched (rule : SecondaryTargeting) (lanes : List LaneId) : Prop
  | namedLane (aims : rule.aim? = some .lane) (named : rule.Names lanes)
  | nextLanes (aims : rule.aim? = some .lane) (reaches : rule.reach? = some .adjacentToPrimary)
  | sameLane (aims : rule.aim? = some .drone) (reaches : rule.reach? = some .primarySourceLane)

/-- Words that are known and do not go together: lanes in the lane of the first target, and
drones next to it or in a lane that is named. -/
inductive Mismatched (rule : SecondaryTargeting) (lanes : List LaneId) : Prop
  | lanes (aims : rule.aim? = some .lane) (reaches : rule.reach? = some .primarySourceLane)
      (unnamed : ¬rule.Names lanes)
  | nextDrones (aims : rule.aim? = some .drone)
      (reaches : rule.reach? = some .adjacentToPrimary)
  | namedDrones (aims : rule.aim? = some .drone) (named : rule.Names lanes)
      (other : rule.reach? ≠ some .primarySourceLane)

/-- On some boards over the lanes a rule finds something after some first target. -/
def Answerable (rule : SecondaryTargeting) (lanes : List LaneId) : Prop :=
  ∃ (s : Situation) (primary : PrimaryChoice), s.field.lanes = lanes ∧
    s.secondaryTargets primary rule ≠ []

variable {rule : SecondaryTargeting} {lanes : List LaneId}

/-! ### Words that are known -/

theorem doubts_eq_nil_iff (plain : rule.restrictions = []) : rule.doubts lanes = [] ↔
    (rule.aim? = some .lane ∨ rule.aim? = some .drone) ∧
      (rule.reach? ≠ none ∨ rule.Names lanes) := by
  have located : (if rule.reach?.isNone ∧ (rule.location.all fun word => word ∉ lanes)
      then [Doubt.secondaryLocation rule.location] else []) = [] ↔
      rule.reach? ≠ none ∨ rule.Names lanes := by
    cases written : rule.location with
    | none => simp [Names, written]
    | some word => simp [Names, written, or_iff_not_imp_left]
  rw [doubts, plain, List.append_eq_nil_iff, List.append_eq_nil_iff, located]
  simp [comparisonDoubts, or_iff_not_imp_left]

theorem doubts_eq_nil_iff_matched (plain : rule.restrictions = []) :
    rule.doubts lanes = [] ↔ rule.Matched lanes ∨ rule.Mismatched lanes := by
  rw [doubts_eq_nil_iff plain]
  constructor
  · rintro ⟨aims | aims, known⟩
    · by_cases named : rule.Names lanes
      · exact .inl (.namedLane aims named)
      · obtain ⟨reach, reaches⟩ := Option.ne_none_iff_exists'.1 (known.resolve_right named)
        cases reach with
        | adjacentToPrimary => exact .inl (.nextLanes aims reaches)
        | primarySourceLane => exact .inr (.lanes aims reaches named)
    · by_cases same : rule.reach? = some .primarySourceLane
      · exact .inl (.sameLane aims same)
      · by_cases named : rule.Names lanes
        · exact .inr (.namedDrones aims named same)
        · obtain ⟨reach, reaches⟩ := Option.ne_none_iff_exists'.1 (known.resolve_right named)
          cases reach with
          | adjacentToPrimary => exact .inr (.nextDrones aims reaches)
          | primarySourceLane => exact absurd reaches same
  · rintro ((⟨aims, named⟩ | ⟨aims, reaches⟩ | ⟨aims, reaches⟩) |
      (⟨aims, reaches, -⟩ | ⟨aims, reaches⟩ | ⟨aims, named, -⟩))
    · exact ⟨.inl aims, .inr named⟩
    · exact ⟨.inl aims, .inl (by simp [reaches])⟩
    · exact ⟨.inr aims, .inl (by simp [reaches])⟩
    · exact ⟨.inl aims, .inl (by simp [reaches])⟩
    · exact ⟨.inr aims, .inl (by simp [reaches])⟩
    · exact ⟨.inr aims, .inr named⟩

theorem Matched.not_mismatched (matched : rule.Matched lanes) : ¬rule.Mismatched lanes := by
  rintro (⟨aims', reaches', unnamed⟩ | ⟨aims', reaches'⟩ | ⟨aims', named', other⟩)
  · cases matched with
    | namedLane _ named => exact unnamed named
    | nextLanes _ reaches => simp [reaches] at reaches'
    | sameLane aims => simp [aims] at aims'
  · cases matched with
    | namedLane aims => simp [aims] at aims'
    | nextLanes aims => simp [aims] at aims'
    | sameLane _ reaches => simp [reaches] at reaches'
  · cases matched with
    | namedLane aims => simp [aims] at aims'
    | nextLanes aims => simp [aims] at aims'
    | sameLane _ reaches => exact other reaches

end SecondaryTargeting

/-! ### What is found -/

namespace Situation

variable {s : Situation} {primary : PrimaryChoice} {rule : SecondaryTargeting}

theorem secondaryLanes_ne_nil_iff : s.secondaryLanes primary rule ≠ [] ↔
    rule.Names s.field.lanes ∨ rule.reach? = some .adjacentToPrimary ∧
      s.field.neighbours primary.lane ≠ [] := by
  unfold secondaryLanes
  split
  case h_1 lane rest known =>
      have mem : lane ∈ s.onlyKnown rule.location := by simp [known]
      obtain ⟨written, inside⟩ := mem_onlyKnown_iff.1 mem
      exact iff_of_true (by simp) (.inl ⟨lane, inside, written⟩)
  case h_2 none_known =>
      have unnamed : ¬rule.Names s.field.lanes := by
        rintro ⟨word, inside, written⟩
        have mem : word ∈ s.onlyKnown rule.location := mem_onlyKnown_iff.2 ⟨written, inside⟩
        simp [none_known] at mem
      rw [or_iff_right unnamed]
      split
      case isTrue reaches => simp [reaches]
      case isFalse other => simp [other]

/-- What finds something is in words that go together, whatever is demanded of it. -/
theorem matched_of_secondaryTargets (found : s.secondaryTargets primary rule ≠ []) :
    rule.Matched s.field.lanes := by
  unfold secondaryTargets at found
  split at found
  case h_1 aims =>
      rcases secondaryLanes_ne_nil_iff.1 found with named | ⟨reaches, -⟩
      · exact .namedLane aims named
      · exact .nextLanes aims reaches
  case h_2 aims =>
      unfold secondaryDrones at found
      split at found
      case h_1 reaches _ => exact .sameLane aims reaches
      case h_2 => exact absurd rfl found
  case h_3 => exact absurd rfl found

end Situation

/-! ### Boards on which something is found -/

def meeting (lanes : List LaneId) (lane : LaneId) : Situation where
  acting := "player1"
  field :=
    { first := { player := "player1", drones := .ofList [(lane, [wreck, scout])] }
      second := { player := "player2", drones := .ofList [(lane, [raider])] }
      lanes }
  definition := .card withdrawal

def wreckChosen (lane : LaneId) : PrimaryChoice where
  target := .ofDrone wreck "player1" lane
  lane := some lane
  owner := "player1"

theorem exists_board_meeting {word : String} (known : Affinity.ofName? word ≠ none)
    (lanes : List LaneId) (lane : LaneId) : ∃ owner board d,
      (owner, board) ∈ (meeting lanes lane).boards word ∧ d ∈ board.dronesIn lane ∧
        d.id ≠ wreck.id := by
  have own : (meeting lanes lane).field.board? "player1" =
      some (meeting lanes lane).field.first := rfl
  have theirs : (meeting lanes lane).field.board? "player2" =
      some (meeting lanes lane).field.second := rfl
  have scouts : scout ∈ (meeting lanes lane).field.first.dronesIn lane := by
    simp [meeting, Board.dronesIn, Roster.ofList]
  have raids : raider ∈ (meeting lanes lane).field.second.dronesIn lane := by
    simp [meeting, Board.dronesIn, Roster.ofList]
  obtain ⟨affinity, named⟩ := Option.ne_none_iff_exists'.1 known
  cases affinity with
  | friendly =>
      have plays : "player1" ∈ (meeting lanes lane).players word := by
        simp [Situation.players, List.reduceOption, named, meeting, Battlefield.board?,
          Battlefield.boards]
      exact ⟨_, _, scout, Situation.mem_boards_iff.2 ⟨plays, own⟩, scouts, by decide⟩
  | enemy =>
      have plays : "player2" ∈ (meeting lanes lane).players word := by
        simp [Situation.players, List.reduceOption, named, meeting, Situation.opponent?,
          Battlefield.opponent?, Battlefield.board?, Battlefield.boards]
      exact ⟨_, _, raider, Situation.mem_boards_iff.2 ⟨plays, theirs⟩, raids, by decide⟩
  | any =>
      have plays : "player1" ∈ (meeting lanes lane).players word := by
        simp [Situation.players, List.reduceOption, named, meeting, Battlefield.board?,
          Battlefield.boards]
      exact ⟨_, _, scout, Situation.mem_boards_iff.2 ⟨plays, own⟩, scouts, by decide⟩

namespace SecondaryTargeting

variable {rule : SecondaryTargeting} {lanes : List LaneId}

/-- Among at least two lanes, words that go together find something where both players meet. -/
theorem Matched.answerable (matched : rule.Matched lanes) (plain : rule.restrictions = [])
    (known : Affinity.ofName? rule.affinity ≠ none) {a b : LaneId} (here : a ∈ lanes)
    (there : b ∈ lanes) (apart : a ≠ b) : rule.Answerable lanes := by
  refine ⟨meeting lanes a, wreckChosen a, rfl, ?_⟩
  cases matched with
  | namedLane aims named =>
      simp only [Situation.secondaryTargets, aims]
      exact Situation.secondaryLanes_ne_nil_iff.2 (.inl named)
  | nextLanes aims reaches =>
      simp only [Situation.secondaryTargets, aims]
      refine Situation.secondaryLanes_ne_nil_iff.2 (.inr ⟨reaches, fun none_beside => ?_⟩)
      obtain ⟨only, rfl⟩ := List.length_eq_one_iff.1 ((neighbours_eq_nil_iff here).1 none_beside)
      exact apart ((List.mem_singleton.1 here).trans (List.mem_singleton.1 there).symm)
  | sameLane aims reaches =>
      obtain ⟨owner, board, d, shown, stands, other⟩ := exists_board_meeting known lanes a
      have passes : (meeting lanes a).dronePasses d a owner rule.restrictions
          ((wreckChosen a).reference? a) = true := by
        rw [plain]
        rfl
      have found : Target.ofDrone d owner a ∈
          (meeting lanes a).secondaryTargets (wreckChosen a) rule := by
        simp only [Situation.secondaryTargets, aims, Situation.secondaryDrones, reaches,
          wreckChosen]
        refine List.mem_flatMap.2 ⟨(owner, board), shown, List.mem_map.2 ⟨d, ?_, rfl⟩⟩
        refine List.mem_filter.2 ⟨stands, Bool.and_eq_true_iff.2 ⟨?_, passes⟩⟩
        exact decide_eq_true other
      exact List.ne_nil_of_mem found

/-- Among at least two lanes a second rule that makes no demands is free of doubts exactly if
it finds something on some boards or its words do not go together, and never are both so. -/
theorem doubts_eq_nil_iff_answerable (two : ∃ a ∈ lanes, ∃ b ∈ lanes, a ≠ b)
    (plain : rule.restrictions = []) (known : Affinity.ofName? rule.affinity ≠ none) :
    (rule.doubts lanes = [] ↔ rule.Answerable lanes ∨ rule.Mismatched lanes) ∧
      ¬(rule.Answerable lanes ∧ rule.Mismatched lanes) := by
  have answers : rule.Answerable lanes ↔ rule.Matched lanes := by
    constructor
    · rintro ⟨s, primary, rfl, found⟩
      exact Situation.matched_of_secondaryTargets found
    · intro matched
      obtain ⟨a, here, b, there, apart⟩ := two
      exact matched.answerable plain known here there apart
  rw [answers, doubts_eq_nil_iff_matched plain]
  exact ⟨Iff.rfl, fun ⟨matched, mismatched⟩ => matched.not_mismatched mismatched⟩

/-! ### Lanes where the first target stands -/

def pursuit : SecondaryTargeting :=
  { type := "DRONE", affinity := "ENEMY", location := some "PRIMARY_SOURCE_LANE" }

theorem pursuit_finds_someone :
    (∃ a ∈ ["lane1", "lane2"], ∃ b ∈ ["lane1", "lane2"], a ≠ b) ∧ pursuit.restrictions = [] ∧
      Affinity.ofName? pursuit.affinity ≠ none ∧ pursuit.doubts ["lane1", "lane2"] = [] ∧
      pursuit.Answerable ["lane1", "lane2"] := by
  have two : ∃ a ∈ ["lane1", "lane2"], ∃ b ∈ ["lane1", "lane2"], a ≠ b := by decide
  have known : Affinity.ofName? pursuit.affinity ≠ none := by decide
  have free : pursuit.doubts ["lane1", "lane2"] = [] := by decide
  refine ⟨two, rfl, known, free, ?_⟩
  rcases (doubts_eq_nil_iff_answerable two rfl known).1.1 free with answers | mismatched
  · exact answers
  · exact absurd mismatched (Matched.sameLane rfl rfl).not_mismatched

def homecoming : SecondaryTargeting :=
  { type := "LANE", location := some "PRIMARY_SOURCE_LANE" }

/-- Each word of the rule is known, and together they find nothing on any boards. -/
theorem homecoming_finds_nothing :
    (∃ a ∈ ["lane1", "lane2"], ∃ b ∈ ["lane1", "lane2"], a ≠ b) ∧ homecoming.restrictions = [] ∧
      Affinity.ofName? homecoming.affinity ≠ none ∧
      homecoming.doubts ["lane1", "lane2"] = [] ∧ ¬homecoming.Answerable ["lane1", "lane2"] := by
  refine ⟨by decide, rfl, by decide, by decide, ?_⟩
  rintro ⟨s, primary, lanes, found⟩
  have matched := Situation.matched_of_secondaryTargets found
  rw [lanes] at matched
  refine matched.not_mismatched (.lanes rfl rfl ?_)
  rintro ⟨word, inside, ⟨⟩⟩
  exact absurd inside (by decide)

end SecondaryTargeting

end DroneTactics
