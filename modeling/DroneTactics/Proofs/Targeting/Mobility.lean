import DroneTactics.Proofs.Board.Station
import DroneTactics.Proofs.Targeting.Offer

/-!
Drones that are able to move. The question has an answer for a drone that is exhausted or
when the inert keyword can be looked for, and what is offered as a cost of moving has
been asked.
-/

namespace DroneTactics

theorem Rules.inert_eq_false_iff {rules : Rules} {keywords : List String} :
    rules.inert keywords = false ↔ ∀ word, rules.inertKeyword = .str word → word ∉ keywords := by
  unfold Rules.inert
  split
  case h_1 word inert =>
      rw [inert]
      constructor
      · rintro absent _ ⟨⟩
        simpa using absent
      · intro absent
        simpa using absent word rfl
  case h_2 other => exact ⟨fun _ word inert => absurd inert (other word), fun _ => rfl⟩

/-- The question has no answer if the inert keyword cannot be looked for and a drone is ready. -/
theorem Rules.askToMove_eq_ok_iff {rules : Rules} {drones : List Drone} :
    rules.askToMove drones = .ok () ↔
      ¬(rules.hasInertKeyword = false ∧ ∃ d ∈ drones, d.exhausted = false) := by
  unfold askToMove
  split
  case isTrue known =>
      refine iff_of_true rfl ?_
      rintro ⟨unknown, d, mem, ready⟩
      rw [unknown, Bool.false_or, List.all_eq_true] at known
      exact absurd (known d mem) (by simp [ready])
  case isFalse unknown =>
      refine iff_of_false (fun answered => nomatch answered) (Classical.not_not.2 ?_)
      simpa using unknown

/-- If the inert keyword can be looked for, any drones can be asked. -/
theorem Rules.askToMove_of_known {rules : Rules} (known : rules.hasInertKeyword = true)
    (drones : List Drone) : rules.askToMove drones = .ok () := by
  rw [askToMove, known]
  rfl

/-- Some drones are asked and then some more. -/
theorem Rules.askToMove_append (rules : Rules) (drones more : List Drone) :
    rules.askToMove (drones ++ more) =
      rules.askToMove drones >>= fun _ => rules.askToMove more := by
  cases known : rules.hasInertKeyword with
  | true => simp [askToMove, known, bind, Except.bind]
  | false =>
      cases tired : drones.all Drone.exhausted with
      | true => simp [askToMove, known, tired, bind, Except.bind]
      | false => simp [askToMove, known, tired, bind, Except.bind]

namespace Situation

/-- A drone is known to be able to move: it is ready, and the inert keyword can be looked
for and is neither one of its own keywords nor one of its effective ones. -/
structure Mobile (s : Situation) (rules : Rules) (d : Drone) (lane : LaneId)
    (owner : PlayerId) : Prop where
  ready : d.exhausted = false
  known : rules.hasInertKeyword = true
  base : ∀ word, rules.inertKeyword = .str word → word ∉ d.keywords
  effective : ∀ word, rules.inertKeyword = .str word →
    word ∉ s.stats.keywords d lane (s.setting owner)

variable {s : Situation} {rules : Rules} {d : Drone} {lane : LaneId} {owner : PlayerId}

theorem mobile_iff : s.Mobile rules d lane owner ↔
    rules.hasInertKeyword = true ∧ s.canMove rules d lane owner = true := by
  have able : s.canMove rules d lane owner = true ↔ d.exhausted = false ∧
      rules.inert (s.stats.keywords d lane (s.setting owner)) = false ∧
      rules.inert d.keywords = false := by
    simp [canMove, and_assoc]
  rw [able, Rules.inert_eq_false_iff, Rules.inert_eq_false_iff]
  constructor
  · rintro ⟨ready, known, base, effective⟩
    exact ⟨known, ready, effective, base⟩
  · rintro ⟨known, ready, effective, base⟩
    exact ⟨ready, known, base, effective⟩

instance : Decidable (s.Mobile rules d lane owner) := decidable_of_iff _ mobile_iff.symm

/-- A drone that is able to move is ready, so it has been asked with the others only if
the inert keyword can be looked for. -/
theorem mobile_of_canMove {drones : List Drone} (asked : rules.askToMove drones = .ok ())
    (mem : d ∈ drones) (able : s.canMove rules d lane owner = true) :
    s.Mobile rules d lane owner := by
  refine mobile_iff.2 ⟨?_, able⟩
  have ready : d.exhausted = false := by
    simp only [canMove, Bool.and_eq_true, Bool.not_eq_true'] at able
    exact able.1.1
  rw [← Bool.not_eq_false]
  exact fun unknown => Rules.askToMove_eq_ok_iff.1 asked ⟨unknown, d, mem, ready⟩

/-- A target is a drone that is able to move from the lane in which it is offered. -/
def Movable (s : Situation) (rules : Rules) (t : Target) : Prop :=
  ∃ d lane, t = .ofDrone d t.owner lane ∧ s.Mobile rules d lane t.owner

/-- What is played does not matter to whether a drone is able to move. -/
theorem movable_playedAs_iff {definition : Definition} {t : Target} :
    (s.playedAs definition).Movable rules t ↔ s.Movable rules t := by
  have same : ∀ d lane owner, (s.playedAs definition).Mobile rules d lane owner ↔
      s.Mobile rules d lane owner := by
    intro d lane owner
    rw [mobile_iff, mobile_iff]
    rfl
  simp only [Movable, same]

end Situation

namespace Referee

variable {r : Referee} {s : Situation} {cost : ExtraCost} {offers : List Target} {t : Target}

/-- What can pay a cost of moving are the rule's targets without the drones that are not
able to move. -/
theorem offered_of_mem_costTargets (costs : s.definition.extraCost = some cost)
    (found : r.costTargets s = .ok offers) (mem : t ∈ offers) :
    ∃ all, r.ruleTargets cost.targeting s = .ok all ∧ t ∈ all ∧
      (cost.isMovement = true → r.rules.askToMove (all.filterMap Target.drone?) = .ok () ∧
        r.canPayByMoving s t = true) := by
  unfold costTargets at found
  rw [costs] at found
  obtain ⟨all, ruled, found⟩ := bind_eq_ok_iff.1 found
  split at found
  case isFalse stays =>
      obtain rfl := pure_eq_ok_iff.1 found
      exact ⟨all, ruled, mem, fun moves => absurd moves stays⟩
  case isTrue =>
      obtain ⟨⟨⟩, asked, found⟩ := bind_eq_ok_iff.1 found
      obtain rfl := pure_eq_ok_iff.1 found
      obtain ⟨inside, pays⟩ := List.mem_filter.1 mem
      exact ⟨all, ruled, inside, fun _ => ⟨asked, pays⟩⟩

/-- A drone that is offered for a cost of moving is able to move. -/
theorem movable_of_mem_costTargets (costs : s.definition.extraCost = some cost)
    (moves : cost.isMovement = true) (found : r.costTargets s = .ok offers) (mem : t ∈ offers)
    (drone : t.kind = .drone) : s.Movable r.rules t := by
  obtain ⟨all, ruled, inside, filtered⟩ := offered_of_mem_costTargets costs found mem
  obtain ⟨asked, able⟩ := filtered moves
  obtain ⟨aim, -, offers⟩ := offers_of_mem_ruleTargets ruled inside
  obtain ⟨d, owner, lane, rfl⟩ := offers.ofDrone drone
  refine ⟨d, lane, rfl, Situation.mobile_of_canMove asked ?_ able⟩
  exact List.mem_filterMap.2 ⟨_, inside, rfl⟩

end Referee

/-! ### A scout that may withdraw -/

def scout : Drone := { id := "scout", name := "Scout" }

def scouting (definition : Definition) (lanes : List LaneId) : Situation where
  acting := "player1"
  field :=
    { first := { player := "player1", drones := .ofList [("lane1", [scout])] }
      second := { player := "player2" }
      lanes }
  definition

def scoutTarget : Target := .ofDrone scout "player1" "lane1"

def withdrawal : Card where
  id := "WITHDRAW"
  name := "Withdraw"
  targeting := { type := "DRONE" }
  extraCost := some
    { type := "SINGLE_MOVE", targeting := { type := "DRONE", affinity := some "FRIENDLY" } }

def patrol : Situation := scouting (.card withdrawal) ["lane1", "lane2"]

def wreck : Drone := { id := "wreck", name := "Heavy", attack := 1, hull := 1, maxHull := some 3 }

def raider : Drone := { id := "raider", name := "Raider", attack := 3, marked := true }

def bomber : Drone := { id := "bomber", name := "Bomber", attack := 4, exhausted := true }

def skirmish (definition : Definition) : Situation where
  acting := "player1"
  field :=
    { first :=
        { player := "player1"
          drones := .ofList [("lane1", [scout]), ("lane2", [wreck])]
          sections := [{ id := "bridge", lane := some "lane2", hull := 4, maxHull := some 5 }] }
      second :=
        { player := "player2"
          drones := .ofList [("lane2", [raider, bomber])]
          sections := [{ id := "hangar", lane := some "lane3", hull := 2, maxHull := some 4 }] } }
  definition
  source := some (.drone scout)

end DroneTactics
