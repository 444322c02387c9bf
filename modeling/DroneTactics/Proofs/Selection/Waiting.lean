import DroneTactics.Proofs.Board.Lane
import DroneTactics.Proofs.Definition.Validity
import DroneTactics.Proofs.Selection.CardStep
import DroneTactics.Proofs.Selection.Run
import DroneTactics.Proofs.Targeting.Mobility

/-!
Phases that wait for a choice and what they offer. Every phase but one is entered only if
there is something to choose; the exception is the choice of a lane for a moved drone,
which is entered without a look at the lanes, and so waits for nothing when the field has
a single lane. Boards may change from turn to turn.
-/

namespace DroneTactics

def CardPhase.Waits : CardPhase → Prop
  | .idle => False
  | .complete _ _ _ _ _ => False
  | _ => True

def CardPhase.AsksLane : CardPhase → Prop
  | .costDestination _ _ _ => True
  | _ => False

namespace CardFlow

/-- What the phases offer that look before they wait: something, and drones only if
the cost is to be paid by moving. -/
def Stocked : CardPhase → Prop
  | .cost card offers => offers ≠ [] ∧
      (card.extraCost.any ExtraCost.isMovement = true → ∀ t ∈ offers, t.kind = .drone)
  | .effect _ _ offers => offers ≠ []
  | .secondary _ _ _ offers => offers ≠ []
  | _ => True

variable {r : Referee} {s : Situation} {card : Card} {payment : Option Payment}
  {phase next : CardPhase} {target : Target}

theorem stocked_of_enters (enters : Enters r s card payment next)
    (remains : next ≠ .effect card payment []) : Stocked next := by
  cases enters with
  | untargeted => trivial
  | fizzled => trivial
  | offered =>
      rintro rfl
      exact remains rfl

/-- A picked target leads to a phase that looked before it waits. -/
theorem stocked_of_chooses (chooses : Chooses r s phase target next) : Stocked next := by
  cases chooses with
  | costPaid _ _ enters => exact stocked_of_enters enters enters.remains
  | destination enters => exact stocked_of_enters enters enters.remains
  | primary _ _ _ remains => exact remains
  | costGone => trivial
  | costMoves => trivial
  | only => trivial
  | primaryGone => trivial
  | primaryAlone => trivial
  | second => trivial

/-- The first phase of a card whose moving cost is paid with drones. -/
theorem stocked_of_begins (begins : Begins r s card next)
    (sound : ∀ cost, card.extraCost = some cost → cost.isMovement = true →
      cost.targeting.aim? = some .drone) : Stocked next := by
  cases begins with
  | unpayable => trivial
  | pointless => trivial
  | free _ enters remains => exact stocked_of_enters enters remains
  | cost costs found remains =>
      refine ⟨remains, fun moves t mem => ?_⟩
      obtain ⟨cost, costs, moves⟩ := (Option.any_eq_true _ _).1 moves
      have costs' : (s.playedAs (.card card)).definition.extraCost = some cost := costs
      obtain ⟨all, ruled, inside, -⟩ := Referee.offered_of_mem_costTargets costs' found mem
      obtain ⟨aim, known, offers⟩ := Referee.offers_of_mem_ruleTargets ruled inside
      rw [sound cost costs moves, Option.some.injEq] at known
      subst known
      obtain ⟨d, owner, lane, rfl⟩ := offers
      rfl

/-! ### The lane of a moved drone -/

theorem not_asksLane_of_enters (enters : Enters r s card payment next) : ¬next.AsksLane := by
  cases enters <;> exact id

/-- A lane is asked for only when the picked target pays by moving. -/
theorem cost_of_asksLane (chooses : Chooses r s phase target next) (asks : next.AsksLane) :
    ∃ card offers lane, phase = .cost card offers ∧ s.field.Locates target none lane ∧
      card.extraCost.any ExtraCost.isMovement = true ∧
      next.offers = (s.field.neighbours lane).map (.ofLane · s.acting) := by
  cases chooses with
  | costMoves located moves => exact ⟨_, _, _, rfl, located, moves, rfl⟩
  | costPaid _ _ enters => exact absurd asks (not_asksLane_of_enters enters)
  | destination enters => exact absurd asks (not_asksLane_of_enters enters)
  | costGone => exact asks.elim
  | only => exact asks.elim
  | primaryGone => exact asks.elim
  | primaryAlone => exact asks.elim
  | primary => exact asks.elim
  | second => exact asks.elim

/-- Only a drone in a single lane leads to a choice among no lanes. -/
theorem one_lane_of_chooses (stocked : Stocked phase) (first : FirstOf phase.offers target)
    (chooses : Chooses r s phase target next) (asks : next.AsksLane)
    (nothing : next.offers = []) : s.field.lanes.length = 1 := by
  obtain ⟨card, offers, lane, rfl, located, moves, beside⟩ := cost_of_asksLane chooses asks
  have drone : target.kind = .drone := stocked.2 moves target first.mem
  rw [Battlefield.Locates, if_pos drone] at located
  obtain ⟨st, found, rfl⟩ := located
  rw [beside, List.map_eq_nil_iff] at nothing
  exact (neighbours_eq_nil_iff (Battlefield.lane_of_station? found)).1 nothing

/-- On a single lane the choice of a lane is among none. -/
theorem offers_eq_nil_of_one_lane (chooses : Chooses r s phase target next)
    (asks : next.AsksLane) (single : s.field.lanes.length = 1) : next.offers = [] := by
  obtain ⟨card, offers, lane, -, -, -, beside⟩ := cost_of_asksLane chooses asks
  rw [beside, List.map_eq_nil_iff]
  exact neighbours_of_length_le_one (Nat.le_of_eq single) lane

/-! ### Runs -/

variable {first : CardPhase} {s' : Situation} {turns : List Turn}

theorem Stocked.offers_ne_nil (stocked : Stocked phase) (waits : phase.Waits)
    (other : ¬phase.AsksLane) : phase.offers ≠ [] := by
  cases phase with
  | idle => exact waits.elim
  | cost => exact stocked.1
  | costDestination => exact absurd trivial other
  | effect => exact stocked
  | secondary => exact stocked
  | complete => exact waits.elim

/-- Along a run every phase has looked before it waits, and a choice of a lane that is
among none was brought in on a single lane. -/
theorem stocked_of_run (initial : Stocked first) (asks : ¬first.AsksLane)
    (run : (advance r).Run s first turns s' phase) :
    Stocked phase ∧ (phase.AsksLane → phase.offers = [] →
      (advance r).Entered s first turns phase fun s => s.field.lanes.length = 1) := by
  refine run.snoc_induction (motive := fun turns _ phase => Stocked phase ∧
    (phase.AsksLane → phase.offers = [] →
      (advance r).Entered s first turns phase fun s => s.field.lanes.length = 1)) ?_ ?_
  · exact ⟨initial, fun h => absurd h asks⟩
  · rintro turns s' phase turn next run ⟨stocked, entered⟩ head
    rcases advance_cases head with rfl | rfl | ⟨target, offered, chooses⟩
    · exact ⟨trivial, fun h => h.elim⟩
    · exact ⟨stocked, fun asks nothing => (entered asks nothing).later⟩
    · refine ⟨stocked_of_chooses chooses, fun asks nothing => ?_⟩
      -- The phase may be brought in once more, and then its first entry tells the lanes.
      by_cases same : phase = next
      · subst same
        exact (entered asks nothing).later
      · exact .of_snoc run head same (one_lane_of_chooses stocked offered chooses asks nothing)

/-- A card of a valid set waits for nothing exactly when a lane is asked for that was
brought in on boards with a single lane. -/
theorem offers_nothing_iff {cards : List Card} {abilities : List Ability}
    {lanes : List LaneId} (valid : (validate cards abilities lanes).valid = true)
    (mem : card ∈ cards) (begins : begin r s card = .ok first)
    (run : (advance r).Run s first turns s' phase) (waits : phase.Waits) :
    phase.offers = [] ↔ phase.AsksLane ∧
      (advance r).Entered s first turns phase fun s => s.field.lanes.length = 1 := by
  have begins := begin_eq_ok_iff.1 begins
  have initial : Stocked first := stocked_of_begins begins fun cost => aim_of_valid valid mem
  have asks : ¬first.AsksLane := by
    cases begins with
    | free _ enters => exact not_asksLane_of_enters enters
    | unpayable => exact id
    | pointless => exact id
    | cost => exact id
  obtain ⟨stocked, entered⟩ := stocked_of_run initial asks run
  constructor
  · intro nothing
    by_cases asked : phase.AsksLane
    · exact ⟨asked, entered asked nothing⟩
    · exact absurd nothing (stocked.offers_ne_nil waits asked)
  · rintro ⟨asked, before, turn, after, s₁, prev, -, -, changes, head, single⟩
    rcases advance_cases head with rfl | rfl | ⟨target, -, chooses⟩
    · exact asked.elim
    · exact absurd rfl changes
    · exact offers_eq_nil_of_one_lane chooses asked single

/-! ### A withdrawal from the only lane -/

def cornered : Situation := scouting (.card withdrawal) ["lane1"]

def withdrawing : CardPhase := .cost withdrawal [scoutTarget]

def stranded : CardPhase :=
  .costDestination withdrawal { target := scoutTarget, sourceLane := some "lane1" } []

theorem stranded_of_withdrawing :
    (advance {}).Run cornered withdrawing [.still (.select scoutTarget)] cornered stranded :=
  .cons rfl (.nil _ _)

/-- The withdrawal is a sound card, and the flow waits for a lane though none is offered. -/
theorem waits_without_offers :
    (validate [withdrawal] [] ["lane1"]).valid = true ∧
      begin {} cornered withdrawal = .ok withdrawing ∧
      (advance {}).Run cornered withdrawing [.still (.select scoutTarget)] cornered stranded ∧
      stranded.Waits ∧ stranded.offers = [] :=
  ⟨by decide, rfl, stranded_of_withdrawing, trivial, rfl⟩

theorem offers_nothing_when_stranded :
    (validate [withdrawal] [] ["lane1"]).valid = true ∧
      begin {} cornered withdrawal = .ok withdrawing ∧
      (stranded.offers = [] ↔ stranded.AsksLane ∧
        (advance {}).Entered cornered withdrawing [.still (.select scoutTarget)] stranded
          fun s => s.field.lanes.length = 1) := by
  have valid : (validate [withdrawal] [] ["lane1"]).valid = true := by decide
  have begins : begin {} cornered withdrawal = .ok withdrawing := rfl
  refine ⟨valid, begins, ?_⟩
  exact offers_nothing_iff valid (by simp) begins stranded_of_withdrawing trivial

end CardFlow

end DroneTactics
