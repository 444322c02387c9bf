import DroneTactics.Proofs.Board.Lane
import DroneTactics.Targeting.Scope

/-!
The lanes a rule reaches are lanes of the field, in lane order. Which ones they are can be said
by their positions: all of them, the one of the source, those at the positions next to it, the
one a cost leaves or goes to, or the one that is named.
-/

namespace DroneTactics

theorem Reach.eq_name_of_ofName? {word : String} {reach : Reach}
    (known : ofName? word = some reach) : word = reach.name := by
  unfold ofName? at known
  split at known <;> cases known <;> rfl

namespace Situation

variable {s : Situation} {lane : LaneId} {location : Option String}

theorem mem_onlyKnown_iff {named : Option LaneId} :
    lane ∈ s.onlyKnown named ↔ named = some lane ∧ lane ∈ s.field.lanes := by
  simp [onlyKnown]

theorem onlyKnown_sublist (s : Situation) (lane : Option LaneId) :
    (s.onlyKnown lane).Sublist s.field.lanes := by
  cases lane with
  | none => exact List.nil_sublist _
  | some l =>
      unfold onlyKnown
      by_cases known : l ∈ s.field.lanes
      · simp [known]
      · simp [known]

theorem scope_sublist (s : Situation) (location : Option String) :
    (s.scope location).Sublist s.field.lanes := by
  unfold scope
  split
  case h_1 => exact List.Sublist.refl _
  case h_2 =>
      split
      case h_2 => exact s.onlyKnown_sublist _
      case h_1 reach _ =>
          cases reach with
          | anyLane => exact List.Sublist.refl _
          | allLanes => exact List.Sublist.refl _
          | adjacentLane => exact neighbours_sublist _ _
          | sameLane => exact s.onlyKnown_sublist _
          | costSourceLane => exact s.onlyKnown_sublist _
          | costDestinationLane => exact s.onlyKnown_sublist _

def At (s : Situation) (lane : Option LaneId) (i : Nat) : Prop :=
  ∃ l, lane = some l ∧ s.field.lanes[i]? = some l

def InScope (s : Situation) (i : Nat) : Option String → Prop
  | none => True
  | some "ANY_LANE" => True
  | some "ALL_LANES" => True
  | some "SAME_LANE" => s.At s.sourceLane? i
  | some "ADJACENT_LANE" => ∃ j, s.At s.sourceLane? j ∧ (i + 1 = j ∨ j + 1 = i)
  | some "COST_SOURCE_LANE" => s.At (s.payment.bind Payment.sourceLane) i
  | some "COST_DESTINATION_LANE" => s.At (s.payment.bind Payment.destinationLane) i
  | some word => s.At (some word) i

/-- A location reaches every lane, and so what is behind no lane as well. -/
def Everywhere (location : Option String) : Prop :=
  location = none ∨ location = some "ANY_LANE" ∨ location = some "ALL_LANES"

variable {i : Nat}

theorem mem_onlyKnown_iff_at {named : Option LaneId} (there : s.field.lanes[i]? = some lane) :
    lane ∈ s.onlyKnown named ↔ s.At named i := by
  rw [mem_onlyKnown_iff]
  constructor
  · rintro ⟨names, -⟩
    exact ⟨lane, names, there⟩
  · rintro ⟨l, names, here⟩
    obtain rfl : lane = l := Option.some.inj (there.symm.trans here)
    exact ⟨names, List.mem_of_getElem? there⟩

theorem mem_neighbours_iff_at (distinct : s.field.lanes.Nodup)
    (there : s.field.lanes[i]? = some lane) {named : Option LaneId} :
    lane ∈ s.field.neighbours named ↔ ∃ j, s.At named j ∧ (i + 1 = j ∨ j + 1 = i) := by
  cases named with
  | none => simp [At, Battlefield.neighbours, neighbours, laneIndex?]
  | some other => simpa [At, Battlefield.neighbours] using mem_neighbours_iff distinct there

/-- Among distinct lanes the one at a position is reached if its position is. -/
theorem mem_scope_iff (distinct : s.field.lanes.Nodup) (there : s.field.lanes[i]? = some lane) :
    lane ∈ s.scope location ↔ s.InScope i location := by
  have known : lane ∈ s.field.lanes := List.mem_of_getElem? there
  cases location with
  | none => exact iff_of_true known trivial
  | some word =>
      cases named : Reach.ofName? word with
      | none =>
          have only : s.InScope i (some word) ↔ s.At (some word) i := by
            unfold InScope
            split <;> rename_i same <;> cases same <;> first | cases named | rfl
          rw [only, scope, named]
          exact mem_onlyKnown_iff_at there
      | some reach =>
          obtain rfl := Reach.eq_name_of_ofName? named
          rw [scope, named]
          cases reach with
          | anyLane => exact iff_of_true known trivial
          | allLanes => exact iff_of_true known trivial
          | sameLane => exact mem_onlyKnown_iff_at there
          | adjacentLane => exact mem_neighbours_iff_at distinct there
          | costSourceLane => exact mem_onlyKnown_iff_at there
          | costDestinationLane => exact mem_onlyKnown_iff_at there

/-- What is behind a lane, or behind none, is reached if everything is or its lane is. -/
theorem reaches_iff (distinct : s.field.lanes.Nodup) {behind : Option LaneId} :
    s.reaches location behind = true ↔
      Everywhere location ∨ ∃ i, s.At behind i ∧ s.InScope i location := by
  by_cases all : Everywhere location
  · refine iff_of_true ?_ (.inl all)
    rcases all with rfl | rfl | rfl <;> rfl
  · have within : s.reaches location behind = behind.any fun l => l ∈ s.scope location := by
      unfold reaches
      split
      case h_4 => rfl
      case h_1 unsaid => exact absurd (.inl (Option.map_eq_none_iff.1 unsaid)) all
      case h_2 named =>
          obtain ⟨word, rfl, known⟩ := Option.map_eq_some_iff.1 named
          obtain rfl := Reach.eq_name_of_ofName? known
          exact absurd (.inr (.inl rfl)) all
      case h_3 named =>
          obtain ⟨word, rfl, known⟩ := Option.map_eq_some_iff.1 named
          obtain rfl := Reach.eq_name_of_ofName? known
          exact absurd (.inr (.inr rfl)) all
    rw [within, Option.any_eq_true, or_iff_right all]
    constructor
    · rintro ⟨l, rfl, reached⟩
      have reached : l ∈ s.scope location := by simpa using reached
      obtain ⟨i, there⟩ := List.mem_iff_getElem?.1 ((s.scope_sublist location).subset reached)
      exact ⟨i, ⟨l, rfl, there⟩, (mem_scope_iff distinct there).1 reached⟩
    · rintro ⟨i, ⟨l, rfl, there⟩, reached⟩
      exact ⟨l, rfl, by simpa using (mem_scope_iff distinct there).2 reached⟩

end Situation

end DroneTactics
