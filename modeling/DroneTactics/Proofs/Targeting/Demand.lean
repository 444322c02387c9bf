import DroneTactics.Proofs.Board.Control
import DroneTactics.Proofs.Board.Station
import DroneTactics.Targeting.Restriction
import Mathlib.Algebra.Order.Ring.Rat
import Mathlib.Data.Rat.Cast.Order

/-!
What demands mean. A tag says something of the candidate itself, of whose drones are in a lane,
or of whether a section has lost hull; a limit says how the effective value of a drone, as a
number, compares to the one that is written. Sets and texts are no numbers and keep to no limit.
-/

namespace DroneTactics

/-! ### Limits -/

def Comparison.Relates : Comparison → Int → Int → Prop
  | .lt, m, n => m < n
  | .lte, m, n => m ≤ n
  | .eq, m, n => m = n
  | .gt, m, n => n < m
  | .gte, m, n => n ≤ m

def StatValue.number? : StatValue → Option Int
  | .single (.int n) => some n
  | .single (.bool b) => some (if b then 1 else 0)
  | _ => none

/-- A comparison of two numbers looks at whether they are the same and which is less. -/
theorem Comparison.holds_iff_relates (c : Comparison) (m n : Int) :
    c.holds (decide (Magnitude.rational m = Magnitude.rational n))
      (some (Magnitude.order (.rational m) (.rational n))) = true ↔ c.Relates m n := by
  rcases lt_trichotomy m n with less | rfl | more
  · have apart : m ≠ n := less.ne
    cases c <;> simp [holds, Relates, Magnitude.order, less, apart, less.le, less.asymm]
  · cases c <;> simp [holds, Relates, Magnitude.order]
  · have apart : m ≠ n := more.ne'
    cases c <;> simp [holds, Relates, Magnitude.order, more, apart, more.le, more.asymm]

namespace StatValue

variable {v : StatValue} {word : String} {m n : Int}

theorem compareByName_of_number (number : v.number? = some m) :
    v.compareByName word (.single (.int n)) = true ↔
      ∃ c, Comparison.ofName? word = some c ∧ c.Relates m n := by
  have same : v.same (.single (.int n)) =
      decide (Magnitude.rational m = Magnitude.rational n) := by
    unfold number? at number
    split at number <;> cases number <;> simp [StatValue.same, Atom.same, Atom.magnitude?]
  have order : v.order? (.single (.int n)) =
      some (Magnitude.order (.rational m) (.rational n)) := by
    unfold number? at number
    split at number <;> cases number <;> simp [StatValue.order?, Atom.order?, Atom.magnitude?]
  rw [compareByName, same, order]
  cases Comparison.ofName? word with
  | none => simp
  | some c => simpa using c.holds_iff_relates m n

def NoNumber (v : StatValue) : Prop :=
  v.number? = none ∧
    ∀ n, v.same (.single (.int n)) = false ∧ v.order? (.single (.int n)) = none

/-- What is not the same and has no order satisfies no comparison. -/
theorem NoNumber.not_compareByName (other : v.NoNumber) :
    v.compareByName word (.single (.int n)) = false := by
  rw [compareByName, (other.2 n).1, (other.2 n).2]
  cases Comparison.ofName? word with
  | none => rfl
  | some c => cases c <;> rfl

end StatValue

namespace Situation

variable {s : Situation} {d : Drone} {lane : LaneId} {owner : PlayerId} {name : String}

/-- What a name stands for on the drone itself is an integer, a truth value, or no number. -/
theorem attribute?_cases {v : StatValue} (found : d.attribute? name = some v) :
    (∃ m, v.number? = some m) ∨ v.NoNumber := by
  unfold Drone.attribute? at found
  split at found
  case h_6 =>
      obtain ⟨full, -, rfl⟩ := Option.map_eq_some_iff.1 found
      exact .inl ⟨full, rfl⟩
  case h_15 =>
      split_ifs at found
      all_goals
        obtain rfl := Option.some.inj found
        exact .inr ⟨rfl, fun _ => ⟨rfl, rfl⟩⟩
  all_goals
    obtain rfl := Option.some.inj found
    first | exact .inl ⟨_, rfl⟩ | exact .inr ⟨rfl, fun _ => ⟨rfl, rfl⟩⟩

theorem value?_cases {v : StatValue} (found : s.value? d lane owner name = some v) :
    (∃ m, v.number? = some m) ∨ v.NoNumber := by
  unfold value? StatModel.value? at found
  split at found
  case h_1 n _ =>
      obtain rfl := Option.some.inj found
      exact .inl ⟨n, rfl⟩
  case h_2 => exact attribute?_cases found

theorem keepsLimit_iff {l : StatLimit} : s.keepsLimit d lane owner l = true ↔
    ∃ m, (s.value? d lane owner l.stat).bind StatValue.number? = some m ∧
      ∃ c, Comparison.ofName? l.comparison = some c ∧ c.Relates m l.value := by
  unfold keepsLimit
  cases found : s.value? d lane owner l.stat with
  | none => simp
  | some v =>
      rcases value?_cases found with ⟨m, number⟩ | other
      · simp [number, StatValue.compareByName_of_number number]
      · simp [other.1, other.not_compareByName]

end Situation

/-! ### Drones -/

theorem Drone.damaged_iff {d : Drone} :
    d.damaged = true ↔ ∃ full, d.maxHull = some full ∧ d.hull < full := by
  unfold damaged
  cases d.maxHull <;> simp

namespace Situation

variable {s : Situation} {d : Drone} {lane : LaneId} {owner : PlayerId}

/-- A demand is met by a drone. Without an earlier choice a relation asks for nothing. -/
def DroneBears (s : Situation) (d : Drone) (lane : LaneId) (owner : PlayerId) :
    Restriction → Prop
  | .tag "MARKED" => d.marked = true
  | .tag "NOT_MARKED" => d.marked = false
  | .tag "EXHAUSTED" => d.exhausted = true
  | .tag "NOT_EXHAUSTED" => d.exhausted = false
  | .tag "SNARED" => d.snared = true
  | .tag "NOT_SNARED" => d.snared = false
  | .tag "DAMAGED_HULL" => ∃ full, d.maxHull = some full ∧ d.hull < full
  | .tag _ => False
  | .limit l =>
    ∃ m, (s.value? d lane owner l.stat).bind StatValue.number? = some m ∧
      ∃ c, Comparison.ofName? l.comparison = some c ∧ c.Relates m l.value
  | .relation _ => True

theorem droneMeets_iff {demand : Restriction} :
    s.droneMeets d lane owner none demand = true ↔ s.DroneBears d lane owner demand := by
  cases demand with
  | limit l => exact keepsLimit_iff
  | relation r => exact iff_of_true rfl trivial
  | tag word =>
      rw [droneMeets]
      unfold Drone.hasTag DroneBears
      split <;> simp_all [Drone.damaged_iff]

end Situation

/-! ### Sides of lanes -/

namespace Situation

variable {s : Situation} {lane : LaneId} {owner : PlayerId}

def strength (s : Situation) (player : Option PlayerId) (lane : LaneId) : Nat :=
  ((player.bind s.field.board?).map fun b => b.droneCount lane).getD 0

/-- A demand is met by a player's side of a lane. Control is seen from the acting player. -/
def LaneBears (s : Situation) (lane : LaneId) (owner : PlayerId) : Restriction → Prop
  | .tag "CONTROLLED" => s.strength s.opponent? lane < s.strength (some s.acting) lane
  | .tag "ENEMY_CONTROLLED" => s.strength (some s.acting) lane < s.strength s.opponent? lane
  | .tag "UNCONTROLLED" => s.strength (some s.acting) lane = s.strength s.opponent? lane
  | .tag "HAS_DRONES" => 0 < s.strength (some owner) lane
  | .tag "NO_DRONES" => s.strength (some owner) lane = 0
  | _ => False

theorem strength_of_board? {board : Board} (owned : s.field.board? owner = some board) :
    s.strength (some owner) lane = board.droneCount lane := by
  simp [strength, owned]

/-- A lane of the field belongs to the player with more drones in it. -/
theorem control_cases (distinct : s.field.first.player ≠ s.field.second.player)
    {other : PlayerId} (opposed : s.opponent? = some other) (known : lane ∈ s.field.lanes) :
    (s.strength (some other) lane < s.strength (some s.acting) lane ∧
      s.field.control lane = some s.acting) ∨
    (s.strength (some s.acting) lane < s.strength (some other) lane ∧
      s.field.control lane = some other) ∨
    (s.strength (some s.acting) lane = s.strength (some other) lane ∧
      s.field.control lane = none) := by
  have first : s.strength (some s.field.first.player) lane = s.field.first.droneCount lane :=
    strength_of_board? (Battlefield.board?_of_mem distinct (by simp [Battlefield.boards]))
  have second : s.strength (some s.field.second.player) lane = s.field.second.droneCount lane :=
    strength_of_board? (Battlefield.board?_of_mem distinct (by simp [Battlefield.boards]))
  have control : s.field.control lane = leader s.field.first s.field.second lane := if_pos known
  have leads := leader_cases s.field.first s.field.second lane
  unfold opponent? Battlefield.opponent? at opposed
  split_ifs at opposed with acts acts'
  · rw [acts, ← Option.some.inj opposed, first, second, control]
    exact leads
  · rw [acts', ← Option.some.inj opposed, first, second, control]
    rcases leads with ahead | behind | even
    · exact .inr (.inl ahead)
    · exact .inl behind
    · exact .inr (.inr ⟨even.1.symm, even.2⟩)

theorem laneMeets_iff (distinct : s.field.first.player ≠ s.field.second.player)
    {other : PlayerId} {board : Board} {demand : Restriction}
    (opposed : s.opponent? = some other) (owned : s.field.board? owner = some board)
    (known : lane ∈ s.field.lanes) :
    s.laneMeets lane owner s.field.control demand = true ↔ s.LaneBears lane owner demand := by
  have apart : s.acting ≠ other := Battlefield.ne_of_opponent? distinct opposed
  have control := control_cases distinct opposed known
  cases demand with
  | limit l => exact iff_of_false nofun nofun
  | relation r => exact iff_of_false nofun nofun
  | tag word =>
      rw [laneMeets]
      have count : s.strength (some owner) lane = board.droneCount lane :=
        strength_of_board? owned
      unfold laneHasTag LaneBears
      split
      case h_4 => simp [owned, count]
      case h_5 => simp [owned, count]
      case h_6 => simp_all
      all_goals
        -- Each of the three asks whose the lane is.
        simp only [opposed, decide_eq_true_eq]
        rcases control with ⟨_, held⟩ | ⟨_, held⟩ | ⟨_, held⟩ <;>
          simp [held, apart, apart.symm] <;> omega

end Situation

/-! ### Sections -/

def ShipSection.Bears (sec : ShipSection) : Restriction → Prop
  | .tag "DAMAGED_HULL" => ∃ full, sec.maxHull = some full ∧ sec.hull < full
  | _ => False

theorem ShipSection.damaged_iff {sec : ShipSection} :
    sec.damaged = true ↔ ∃ full, sec.maxHull = some full ∧ sec.hull < full := by
  unfold ShipSection.damaged
  cases sec.maxHull <;> simp

theorem ShipSection.meets_iff {sec : ShipSection} {demand : Restriction} :
    sec.meets demand = true ↔ sec.Bears demand := by
  cases demand with
  | limit l => exact iff_of_false nofun nofun
  | relation r => exact iff_of_false nofun nofun
  | tag word =>
      rw [meets]
      unfold hasTag Bears
      split <;> simp_all [damaged_iff]

end DroneTactics
