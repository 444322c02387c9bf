import DroneTactics.Board.StatRule
import DroneTactics.Proofs.Board.Control
import DroneTactics.Proofs.Selection.Resemblance
import DroneTactics.Proofs.Targeting.Mobility
import DroneTactics.Proofs.Targeting.Payment

/-!
The seats are symmetric. Look-ups go through the first player's board before the second's,
so the order of the boards could matter where both have something of one name. When the
players are told apart by their names, and no drone and no section has the same id on both
boards, it does not: nothing that targets depend on changes when the boards change places,
and paying a cost before or after that comes to the same.
-/

namespace DroneTactics

namespace Battlefield

def exchanged (f : Battlefield) : Battlefield := { f with first := f.second, second := f.first }

structure Apart (f : Battlefield) : Prop where
  players : f.first.player ≠ f.second.player
  drones : ∀ d ∈ f.first.drones.toList, ∀ e ∈ f.second.drones.toList, d.2.id ≠ e.2.id
  sections : ∀ a ∈ f.first.sections, ∀ b ∈ f.second.sections, a.id ≠ b.id

instance (f : Battlefield) : Decidable f.Apart :=
  decidable_of_iff (f.first.player ≠ f.second.player ∧
    (∀ d ∈ f.first.drones.toList, ∀ e ∈ f.second.drones.toList, d.2.id ≠ e.2.id) ∧
    ∀ a ∈ f.first.sections, ∀ b ∈ f.second.sections, a.id ≠ b.id)
    ⟨fun h => ⟨h.1, h.2.1, h.2.2⟩, fun h => ⟨h.players, h.drones, h.sections⟩⟩

variable {f g : Battlefield} {b c : Board} {player : PlayerId}

/-! ### Looking up -/

/-- The first of two lists is searched first, which does not matter if what is looked for is
not in both. -/
theorem find?_append_comm {α : Type} {p : α → Bool} {xs ys : List α}
    (once : ∀ x ∈ xs, ∀ y ∈ ys, p x = true → p y = false) :
    (ys ++ xs).find? p = (xs ++ ys).find? p := by
  rw [List.find?_append, List.find?_append]
  cases here : xs.find? p with
  | none => rw [Option.or_none, Option.none_or]
  | some x =>
      have absent : ys.find? p = none := by
        refine List.find?_eq_none.2 fun y mem => ?_
        have fails := once x (List.mem_of_find?_eq_some here) y mem (List.find?_some here)
        simp [fails]
      rw [absent, Option.none_or, Option.or_none]

theorem board?_exchanged (distinct : f.first.player ≠ f.second.player) :
    f.exchanged.board? player = f.board? player := by
  have once : ∀ b ∈ [f.first], ∀ c ∈ [f.second], decide (b.player = player) = true →
      decide (c.player = player) = false := by
    simp only [List.mem_singleton, forall_eq, decide_eq_true_eq, decide_eq_false_iff_not]
    rintro rfl
    exact distinct.symm
  exact find?_append_comm once

theorem opponent?_exchanged (distinct : f.first.player ≠ f.second.player) :
    f.exchanged.opponent? player = f.opponent? player := by
  unfold opponent? exchanged
  by_cases first : player = f.first.player
  · have other : player ≠ f.second.player := first ▸ distinct
    rw [if_neg other, if_pos first, if_pos first]
  · simp only [if_neg first]

theorem station?_exchanged (apart : f.Apart) {id : String} :
    f.exchanged.station? id = f.station? id := by
  simp only [station?, stations, boards, exchanged, List.flatMap_cons, List.flatMap_nil,
    List.append_nil]
  refine find?_append_comm fun st here st' there named => ?_
  obtain ⟨⟨lane, d⟩, along, rfl⟩ := List.mem_map.1 here
  obtain ⟨⟨lane', d'⟩, along', rfl⟩ := List.mem_map.1 there
  have stands := Roster.mem_get_iff.1 (Board.mem_dronesAlong_iff.1 along).2
  have stands' := Roster.mem_get_iff.1 (Board.mem_dronesAlong_iff.1 along').2
  have other : d.id ≠ d'.id := apart.drones _ stands _ stands'
  have named : d.id = id := by simpa using named
  simpa [named] using other.symm

theorem section?_exchanged (apart : f.Apart) {id : String} :
    f.exchanged.section? id = f.section? id := by
  simp only [section?, boards, exchanged, List.flatMap_cons, List.flatMap_nil, List.append_nil]
  refine find?_append_comm fun entry here entry' there named => ?_
  obtain ⟨a, mem, rfl⟩ := List.mem_map.1 here
  obtain ⟨b, mem', rfl⟩ := List.mem_map.1 there
  have other : a.id ≠ b.id := apart.sections _ mem _ mem'
  have named : a.id = id := by simpa using named
  simpa [named] using other.symm

/-! ### Control -/

theorem control_exchanged : f.exchanged.control = f.control := by
  funext lane
  simp only [control, laneControl, exchanged, leader_comm f.second f.first]

/-- Whoever controls a lane is one of the players, and the other one is who has to be gone. -/
theorem clears_exchanged (distinct : f.first.player ≠ f.second.player) {lane : LaneId} :
    f.exchanged.control.clears (some player) f.exchanged.first f.exchanged.second lane =
      f.control.clears (some player) f.first f.second lane := by
  rw [control_exchanged]
  simp only [LaneControl.clears, exchanged, Option.some.injEq]
  by_cases first : f.first.player = player
  · have second : f.second.player ≠ player := fun same => distinct (first.trans same.symm)
    rw [if_pos first, if_neg second]
  · by_cases second : f.second.player = player
    · rw [if_neg first, if_pos second]
    · have nobody : f.control lane ≠ some player := by
        unfold control laneControl leader
        split_ifs <;> simp [first, second]
      simp [nobody]

/-- A field with distinct players and ids resembles the one with the boards exchanged. -/
theorem Apart.resembles (apart : f.Apart) (player : PlayerId) :
    f.Resembles player f.exchanged where
  lanes := rfl
  boards owner := by
    rw [board?_exchanged apart.players]
    cases f.board? owner with
    | none => exact .none
    | some b => exact .some (.refl player b)
  opponent := opponent?_exchanged apart.players
  stations id := station?_exchanged apart
  sections id := section?_exchanged apart
  control := control_exchanged
  clears who lane := clears_exchanged apart.players

/-! ### Paying -/

theorem exchanged_withBoard (distinct : f.first.player ≠ f.second.player) :
    (f.withBoard c).exchanged = f.exchanged.withBoard c := by
  unfold withBoard exchanged
  by_cases first : c.player = f.first.player
  · have other : c.player ≠ f.second.player := first ▸ distinct
    simp only [if_pos first, if_neg other]
  · simp only [if_neg first]
    split <;> rfl

/-- A board keeps the boards apart if it brings in nothing that the board in its place has
not got. -/
theorem Apart.withBoard (apart : f.Apart) (owned : f.board? player = some b)
    (same : c.player = player)
    (drones : ∀ {lane d}, (lane, d) ∈ c.drones.toList → ∃ other, (other, d) ∈ b.drones.toList)
    (sections : c.sections = b.sections) : (f.withBoard c).Apart := by
  have player' := (mem_boards_of_board? owned).2
  rcases withBoard_cases owned same with ⟨rfl, replaced⟩ | ⟨-, rfl, replaced⟩
  · rw [replaced]
    refine ⟨?_, ?_, ?_⟩
    · exact (same.trans player'.symm) ▸ apart.players
    · rintro ⟨lane, d⟩ here e there
      obtain ⟨other, here⟩ := drones here
      exact apart.drones _ here e there
    · simpa only [sections] using apart.sections
  · rw [replaced]
    refine ⟨?_, ?_, ?_⟩
    · exact (same.trans player'.symm) ▸ apart.players
    · rintro d here ⟨lane, e⟩ there
      obtain ⟨other, there⟩ := drones there
      exact apart.drones d here (other, e) there
    · simpa only [sections] using apart.sections

end Battlefield

theorem Board.mem_toList_moveDrone {b : Board} {id : String} {goal lane : LaneId} {d : Drone}
    (mem : (lane, d) ∈ (b.moveDrone id goal).drones.toList) :
    ∃ other, (other, d) ∈ b.drones.toList := by
  obtain ⟨other, stood⟩ :=
    Roster.exists_mem_get_relocate_iff.1 ⟨lane, Roster.mem_get_iff.2 mem⟩
  exact ⟨other, Roster.mem_get_iff.1 stood⟩

namespace Payment

variable {p : Payment} {f : Battlefield}

theorem apart_applyTo (apart : f.Apart) : (p.applyTo f).Apart := by
  rcases applyTo_cases p f with same | ⟨b, owned, paid | ⟨lane, paid⟩⟩
  · rwa [same]
  · rw [paid]
    have player := (Battlefield.mem_boards_of_board? owned).2
    exact apart.withBoard owned player (fun {lane d} mem => ⟨lane, mem⟩) rfl
  · rw [paid]
    have player := (Battlefield.mem_boards_of_board? owned).2
    exact apart.withBoard owned player Board.mem_toList_moveDrone rfl

/-- Paying and exchanging the boards can be done in either order. -/
theorem applyTo_exchanged (distinct : f.first.player ≠ f.second.player) :
    p.applyTo f.exchanged = (p.applyTo f).exchanged := by
  unfold applyTo
  rw [Battlefield.board?_exchanged distinct]
  cases f.board? p.target.owner with
  | none => rfl
  | some b =>
      simp only
      split
      · rw [Battlefield.exchanged_withBoard distinct]
      · rw [Battlefield.exchanged_withBoard distinct]
      · rfl

end Payment

/-! ### Exchanged seats -/

/-- Boards that are those of a field in each other's place, where nothing is on both. -/
structure Battlefield.Mirrors (f g : Battlefield) : Prop where
  apart : f.Apart
  exchanged : g = f.exchanged

/-- A stat model that does not look at which board is the first. -/
def StatModel.Impartial (model : StatModel) : Prop :=
  ∀ d lane owner (f : Battlefield), f.Apart →
    model d lane ⟨owner, f.exchanged⟩ = model d lane ⟨owner, f⟩

theorem StatModel.impartial_ofRules (rules : List StatRule) :
    (StatModel.ofRules rules).Impartial := by
  intro d lane owner f apart
  rfl

theorem Situation.faithful_mirrors {s : Situation} (impartial : s.stats.Impartial) :
    s.Faithful Battlefield.Mirrors := by
  have resembles : ∀ f : Battlefield, f.Apart → (s.on f).Resembles f.exchanged := by
    intro f apart
    exact ⟨apart.resembles _, fun d lane owner => impartial d lane owner f apart⟩
  rintro f g ⟨apart, rfl⟩
  refine ⟨resembles f apart, fun p => ?_⟩
  rw [field_on, Payment.applyTo_exchanged apart.players]
  exact resembles (p.applyTo f) (Payment.apart_applyTo apart)

/-- Nothing tells boards from the same boards in each other's place: neither a question about
targets nor a selection, whose turns may bring other such boards. -/
theorem indistinct_of_exchanged_seats (r : Referee) (s : Situation)
    (impartial : s.stats.Impartial) (apart : s.field.Apart) :
    s.Indistinct Battlefield.Mirrors r s.field.exchanged :=
  (Situation.faithful_mirrors impartial).indistinct r ⟨apart, rfl⟩

/-- The players of a skirmish change seats, and nothing else changes. -/
theorem skirmish_from_the_other_side :
    (skirmish (.card withdrawal)).field.exchanged ≠ (skirmish (.card withdrawal)).field ∧
    (skirmish (.card withdrawal)).stats.Impartial ∧
    (skirmish (.card withdrawal)).field.Apart ∧
    (skirmish (.card withdrawal)).Indistinct Battlefield.Mirrors {}
      (skirmish (.card withdrawal)).field.exchanged := by
  have impartial : (skirmish (.card withdrawal)).stats.Impartial := StatModel.impartial_ofRules []
  have apart : (skirmish (.card withdrawal)).field.Apart := by decide
  exact ⟨by decide, impartial, apart, indistinct_of_exchanged_seats {} _ impartial apart⟩

end DroneTactics
