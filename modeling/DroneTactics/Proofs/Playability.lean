import DroneTactics.Playability
import DroneTactics.Proofs.Board.Control
import DroneTactics.Proofs.Definition.Validity
import DroneTactics.Proofs.Targeting.Mobility

/-!
When a card may be played. Nothing counts but how many drones each player has in each lane of
the field: a condition on control asks for more of one's own than of the other player's, and
one on empty lanes for drones of one's own where the other player has none. So a card that
asks for control of some lanes is never for both players to play.
-/

namespace DroneTactics

/-- A condition is met by numbers of drones: those of a player, and of the other one, in each
of the lanes of the field. -/
def PlayCondition.MetBy (c : PlayCondition) (lanes : List LaneId) (own opp : LaneId → Nat) :
    Prop :=
  (c.type = "CONTROL_LANES" ∧
    (((c.operator = "ALL" ∨ c.operator = "") ∧
        ∀ lane ∈ c.lanes, lane ∈ lanes ∧ opp lane < own lane) ∨
      (c.operator = "ANY" ∧ ∃ lane ∈ c.lanes, lane ∈ lanes ∧ opp lane < own lane))) ∨
  (c.type = "CONTROL_LANE_EMPTY" ∧ ∃ lane ∈ lanes, 0 < own lane ∧ opp lane = 0)

variable {f : Battlefield} {own opp : Board}

theorem PlayCondition.met_iff (faces : f.Faces own opp)
    (distinct : f.first.player ≠ f.second.player) (c : PlayCondition) :
    c.met own.player f = true ↔ c.MetBy f.lanes own.droneCount opp.droneCount := by
  unfold met
  split
  case h_1 controls =>
      have type : c.type = "CONTROL_LANES" := kind?_eq_some_iff.1 controls
      simp only [LaneControl.satisfies_iff, Battlefield.control_eq_iff faces distinct, MetBy, type]
      simp
  case h_2 empties =>
      have type : c.type = "CONTROL_LANE_EMPTY" := kind?_eq_some_iff.1 empties
      simp only [List.any_eq_true, Battlefield.clears_iff faces distinct, MetBy, type]
      simp
  case h_3 unknown =>
      refine iff_of_false (by simp) ?_
      rintro (⟨type, -⟩ | ⟨type, -⟩)
      · simp [kind?, type, ConditionKind.ofName?] at unknown
      · simp [kind?, type, ConditionKind.ofName?] at unknown

theorem Card.playable_iff (faces : f.Faces own opp) (distinct : f.first.player ≠ f.second.player)
    (card : Card) : card.playable own.player f = true ↔ card.condition = none ∨
      ∃ condition, card.condition = some condition ∧
        condition.MetBy f.lanes own.droneCount opp.droneCount := by
  rw [playable]
  cases card.condition with
  | none => simp
  | some condition => simp [PlayCondition.met_iff faces distinct]

/-- A condition on all of some lanes asks for more drones in each of them. -/
theorem PlayCondition.MetBy.outnumbers {c : PlayCondition} {lanes : List LaneId}
    {own opp : LaneId → Nat} (met : c.MetBy lanes own opp) (controls : c.type = "CONTROL_LANES")
    (all : c.operator = "ALL" ∨ c.operator = "") : ∀ lane ∈ c.lanes, opp lane < own lane := by
  intro lane listed
  rcases met with ⟨-, ⟨-, more⟩ | ⟨any, -⟩⟩ | ⟨empties, -⟩
  · exact (more lane listed).2
  · rcases all with all | all <;> simp [all] at any
  · simp [controls] at empties

/-- Whether a card may be played is decided by the numbers of drones alone. No card of a valid
set that asks for control of all its lanes is for both players to play. -/
theorem playability_of_counts (faces : f.Faces own opp)
    (distinct : f.first.player ≠ f.second.player) (card : Card) :
    (card.playable own.player f = true ↔ card.condition = none ∨
      ∃ condition, card.condition = some condition ∧
        condition.MetBy f.lanes own.droneCount opp.droneCount) ∧
    ∀ cards abilities lanes condition, (validate cards abilities lanes).valid = true →
      card ∈ cards → card.condition = some condition → condition.type = "CONTROL_LANES" →
      (condition.operator = "ALL" ∨ condition.operator = "") →
      ¬(card.playable own.player f = true ∧ card.playable opp.player f = true) := by
  refine ⟨Card.playable_iff faces distinct card, ?_⟩
  rintro cards abilities lanes condition valid mem asks controls all ⟨ours, theirs⟩
  have kind : condition.kind? = some .controlLanes := by rw [PlayCondition.kind?, controls]; rfl
  obtain ⟨lane, listed⟩ := List.exists_mem_of_ne_nil _ (lanes_of_valid valid mem asks kind).1
  -- In a listed lane each player would have more drones than the other one.
  have outnumbers : ∀ {own opp : Board}, f.Faces own opp → card.playable own.player f = true →
      opp.droneCount lane < own.droneCount lane := by
    intro own opp faces plays
    rw [Card.playable_iff faces distinct, asks] at plays
    obtain ⟨_, ⟨rfl⟩, met⟩ := plays.resolve_left nofun
    exact met.outnumbers controls all lane listed
  exact Nat.lt_asymm (outnumbers faces ours) (outnumbers faces.symm theirs)

def garrison : Card where
  id := "GARRISON"
  name := "Garrison"
  condition := some { type := "CONTROL_LANES", lanes := ["lane1"] }

/-- In the skirmish the first lane is the first player's, and the card with it. -/
theorem skirmish_garrison :
    let f := (skirmish (.card garrison)).field
    f.Faces f.first f.second ∧ f.first.player ≠ f.second.player ∧
      (validate [garrison] [] standardLanes).valid = true ∧
      garrison.playable f.first.player f = true ∧
      ¬(garrison.playable f.first.player f = true ∧
        garrison.playable f.second.player f = true) := by
  intro f
  have faces : f.Faces f.first f.second := .inl ⟨rfl, rfl⟩
  have distinct : f.first.player ≠ f.second.player := by decide
  have valid : (validate [garrison] [] standardLanes).valid = true := by decide
  obtain ⟨counts, exclusive⟩ := playability_of_counts faces distinct garrison
  have ahead : ∀ lane ∈ ["lane1"], lane ∈ f.lanes ∧
      f.second.droneCount lane < f.first.droneCount lane := by
    decide
  exact ⟨faces, distinct, valid, counts.2 (.inr ⟨_, rfl, .inl ⟨rfl, .inl ⟨.inl rfl, ahead⟩⟩⟩),
    exclusive _ _ _ _ valid (List.mem_singleton.2 rfl) rfl rfl (.inl rfl)⟩

end DroneTactics
