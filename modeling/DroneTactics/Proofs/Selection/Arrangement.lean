import DroneTactics.Proofs.Board.Arrangement
import DroneTactics.Proofs.Selection.Resemblance
import DroneTactics.Proofs.Targeting.Mobility
import DroneTactics.Proofs.Targeting.Payment

/-!
Boards that are the same lane by lane. In which order a board lists its lanes, and whether it
lists the empty ones, changes nothing that targets depend on. Paying a cost goes through the
list in its order and may add a lane to it, but it leaves boards that are again the same lane
by lane as long as no board holds two drones of one id. So both ways of writing a board down
give the same answers, and selections go through the same states.
-/

namespace DroneTactics

namespace Battlefield

/-- A field on whose boards no id of a drone occurs twice, written down in another way. -/
structure Rearranges (f g : Battlefield) : Prop where
  distinct : ∀ b ∈ f.boards, (b.drones.toList.map fun e => e.2.id).Nodup
  lanes : g.lanes = f.lanes
  first : f.first.Rearranges g.first
  second : f.second.Rearranges g.second

namespace Rearranges

variable {f g : Battlefield} {b c : Board}

theorem resembles (same : f.Rearranges g) (player : PlayerId) : f.Resembles player g :=
  .of_boards same.lanes (same.first.resembles player) (same.second.resembles player)

theorem board_cases (same : f.Rearranges g) (player : PlayerId) :
    (f.board? player = none ∧ g.board? player = none) ∨
    ∃ b c, f.board? player = some b ∧ g.board? player = some c ∧ b.Rearranges c := by
  simp only [board?, boards, List.find?_cons, same.first.player, same.second.player]
  split
  · exact .inr ⟨_, _, rfl, rfl, same.first⟩
  · split
    · exact .inr ⟨_, _, rfl, rfl, same.second⟩
    · exact .inl ⟨rfl, rfl⟩

theorem withBoard (same : f.Rearranges g) (boards : b.Rearranges c)
    (distinct : (b.drones.toList.map fun e => e.2.id).Nodup) :
    (f.withBoard b).Rearranges (g.withBoard c) := by
  have others : ∀ d ∈ f.boards, (d.drones.toList.map fun e => e.2.id).Nodup := same.distinct
  simp only [Battlefield.boards, List.forall_mem_cons, List.not_mem_nil, false_implies,
    implies_true, and_true] at others
  unfold Battlefield.withBoard
  rw [boards.player, same.first.player, same.second.player]
  split
  · exact ⟨by simpa [Battlefield.boards] using ⟨distinct, others.2⟩, same.lanes, boards,
      same.second⟩
  · split
    · exact ⟨by simpa [Battlefield.boards] using ⟨others.1, distinct⟩, same.lanes, same.first,
        boards⟩
    · exact same

end Rearranges

end Battlefield

/-! ### Paying -/

namespace Payment

variable {p : Payment} {b c : Board} {f g : Battlefield}

theorem rearranges_change (same : b.Rearranges c)
    (distinct : (b.drones.toList.map fun e => e.2.id).Nodup) :
    (p.change b).Rearranges (p.change c) := by
  rcases change_cases p with stays | discards | ⟨lane, moves⟩
  · rwa [stays, stays]
  · rw [discards, discards]
    exact same.discard _
  · rw [moves, moves]
    exact same.moveDrone distinct _ lane

theorem nodup_change (distinct : (b.drones.toList.map fun e => e.2.id).Nodup) :
    ((p.change b).drones.toList.map fun e => e.2.id).Nodup := by
  rcases change_cases p with stays | discards | ⟨lane, moves⟩
  · rwa [stays]
  · rwa [discards]
  · rw [moves]
    exact Board.nodup_moveDrone_iff.2 distinct

/-- Boards that are the same lane by lane are so too once a cost is paid on them. -/
theorem rearranges_applyTo (same : f.Rearranges g) : (p.applyTo f).Rearranges (p.applyTo g) := by
  rcases same.board_cases p.target.owner with ⟨ours, theirs⟩ | ⟨b, c, ours, theirs, board⟩
  · rwa [applyTo_of_nobody ours, applyTo_of_nobody theirs]
  · have distinct := same.distinct b (Battlefield.mem_boards_of_board? ours).1
    rw [applyTo_of_owned ours, applyTo_of_owned theirs]
    exact same.withBoard (rearranges_change board distinct) (nodup_change distinct)

end Payment

/-! ### Rearranged boards -/

/-- A stat model that goes by what stands in each lane, and not by how a board lists it. -/
def StatModel.ReadsByLane (model : StatModel) : Prop :=
  ∀ d lane owner (f g : Battlefield), f.Rearranges g →
    model d lane ⟨owner, g⟩ = model d lane ⟨owner, f⟩

theorem Situation.faithful_rearranges {s : Situation} (reads : s.stats.ReadsByLane) :
    s.Faithful Battlefield.Rearranges := by
  have resembles : ∀ f g : Battlefield, f.Rearranges g → (s.on f).Resembles g := by
    intro f g same
    exact ⟨same.resembles _, fun d lane owner => reads d lane owner f g same⟩
  intro f g same
  exact ⟨resembles f g same, fun p => resembles _ _ (Payment.rearranges_applyTo same)⟩

/-- Nothing tells boards apart that are the same lane by lane: neither a question about
targets, lanes or the place of a drone nor a selection, whose turns may bring other such
boards. -/
theorem indistinct_of_rearranged (r : Referee) (s : Situation) (g : Battlefield)
    (reads : s.stats.ReadsByLane) (same : s.field.Rearranges g) :
    s.Indistinct Battlefield.Rearranges r g ∧
      (∀ id, g.station? id = s.field.station? id) ∧
      ∀ location, (s.on g).scope location = s.scope location := by
  have faithful := Situation.faithful_rearranges reads
  have resembles : s.Resembles g := (faithful s.field g same).unpaid
  exact ⟨faithful.indistinct r same, resembles.field.stations, Situation.scope_on resembles⟩

def StatModel.convoy : StatModel := fun d lane setting =>
  let company := ((setting.field.board? setting.owner).map (Board.droneCount · lane)).getD 0
  { d.baseStats with speed := some (d.speed + company) }

theorem StatModel.convoy_readsByLane : convoy.ReadsByLane := by
  intro d lane owner f g same
  rcases same.board_cases owner with ⟨ours, theirs⟩ | ⟨b, c, ours, theirs, board⟩
  · simp only [convoy, ours, theirs]
  · simp only [convoy, ours, theirs, Option.map_some, (board.resembles owner).droneCount]

def escort : Situation := { skirmish (.card withdrawal) with stats := .convoy }

def relisted : Battlefield where
  first :=
    { escort.field.first with
      drones := .ofList [("lane3", []), ("lane2", [wreck]), ("lane1", [scout])] }
  second := escort.field.second
  lanes := escort.field.lanes

/-- Nobody notices the order of the lanes. -/
theorem escort_relisted :
    relisted ≠ escort.field ∧ escort.stats.ReadsByLane ∧ escort.field.Rearranges relisted ∧
      escort.Indistinct Battlefield.Rearranges {} relisted ∧
      (∀ id, relisted.station? id = escort.field.station? id) ∧
      ∀ location, (escort.on relisted).scope location = escort.scope location := by
  have same : escort.field.Rearranges relisted :=
    ⟨by decide, rfl, ⟨by decide, rfl⟩, ⟨.refl _, rfl⟩⟩
  exact ⟨by decide, StatModel.convoy_readsByLane, same,
    indistinct_of_rearranged {} escort relisted StatModel.convoy_readsByLane same⟩

end DroneTactics
