import DroneTactics.Proofs.Board.Lane
import DroneTactics.Proofs.Selection.Presence
import DroneTactics.Proofs.Selection.Record
import DroneTactics.Proofs.Targeting.Mobility
import DroneTactics.Proofs.Targeting.Namesake

/-!
Nothing is spent twice. The card in play is never on offer; a card that has been discarded
is neither offered nor chosen for the effect; and a drone that has been moved is offered in
its new lane only. This holds along every run, whatever sound boards its turns bring. The new
lane is not the one in which the drone stood on the boards of its pick, if their lanes are
distinct and no drone of its id that is found first stands in another lane.
-/

namespace DroneTactics

def CardPhase.effectTargets : CardPhase → List Target
  | .secondary _ primary _ _ => [primary.target]
  | .complete _ _ target second _ => target.toList ++ second.toList
  | .idle => []
  | .cost _ _ => []
  | .costDestination _ _ _ => []
  | .effect _ _ _ => []

structure CardPhase.SpendsOnce (acting : PlayerId) (playing : Option String)
    (phase : CardPhase) : Prop where
  played : ∀ t ∈ phase.offers, t.kind = .card → t.owner = acting ∧ some t.id ≠ playing
  discarded : ∀ p, phase.payment? = some p → p.target.kind = .card →
    p.target.owner = acting ∧
      ∀ t ∈ phase.offers ++ phase.effectTargets, t.kind = .card → t.id ≠ p.target.id
  moved : ∀ p lane, phase.payment? = some p → p.target.kind = .drone →
    p.destinationLane = some lane → ∀ t ∈ phase.offers, t.kind = .drone →
      t.id = p.target.id → t.owner = p.target.owner → t.lane = some lane

/-! ### What is presented after paying -/

namespace Situation

variable {s : Situation} {payment : Option Payment} {p : Payment} {t : Target}

theorem Presents.owner_of_card (there : (s.afterPaying payment).Presents t)
    (card : t.kind = .card) : t.owner = s.acting ∧ some t.id ≠ s.playing := by
  obtain ⟨b, -, c, -, other, rfl⟩ := there.card card
  cases payment with
  | none => exact ⟨rfl, other⟩
  | some => exact ⟨rfl, other⟩

theorem Presents.ne_of_discarded (there : (s.afterPaying (some p)).Presents t)
    (paid : p.target.kind = .card) (own : p.target.owner = s.acting) (card : t.kind = .card) :
    t.id ≠ p.target.id := by
  obtain ⟨b, owned, c, held, -, rfl⟩ := there.card card
  have owned : (p.applyTo s.field).board? p.target.owner = some b := by
    rw [own]
    exact owned
  rw [Payment.board?_applyTo_of_card paid] at owned
  obtain ⟨before, -, rfl⟩ := Option.map_eq_some_iff.1 owned
  have kept : c.id ≠ p.target.id := by simpa using (List.mem_filter.1 held).2
  exact kept

/-- On sound boards a drone that has been moved is presented in its new lane. -/
theorem Presents.lane_of_moved {lane : LaneId} (there : (s.afterPaying (some p)).Presents t)
    (sound : s.field.Sound) (paid : p.target.kind = .drone)
    (moved : p.destinationLane = some lane) (drone : t.kind = .drone)
    (same : t.id = p.target.id) (owner : t.owner = p.target.owner) : t.lane = some lane := by
  obtain ⟨b, board, other, d, stands, rfl⟩ := there.drone drone
  have here : other = lane := Payment.lane_of_moved sound paid moved board owner stands same
  exact congrArg some here

end Situation

namespace CardFlow

variable {r : Referee} {s : Situation} {card : Card} {payment : Option Payment}
  {phase next first : CardPhase} {target t : Target} {turns : List Turn} {s' : Situation}

/-! ### Spending once -/

theorem effectTargets_of_chooses (chooses : Chooses r s phase target next)
    (mem : t ∈ next.effectTargets) :
    next.payment? = phase.payment? ∧ (t = target ∨ t ∈ phase.effectTargets) := by
  cases chooses with
  | costGone => exact absurd mem List.not_mem_nil
  | primaryGone => exact absurd mem List.not_mem_nil
  | costMoves => exact absurd mem List.not_mem_nil
  | costPaid _ _ enters => cases enters <;> exact absurd mem List.not_mem_nil
  | destination enters => cases enters <;> exact absurd mem List.not_mem_nil
  | only => exact ⟨rfl, .inl (by simpa [CardPhase.effectTargets] using mem)⟩
  | primaryAlone => exact ⟨rfl, .inl (by simpa [CardPhase.effectTargets] using mem)⟩
  | primary => exact ⟨rfl, .inl (by simpa [CardPhase.effectTargets] using mem)⟩
  | second =>
      rcases List.mem_append.1 mem with earlier | now
      · exact ⟨rfl, .inr earlier⟩
      · exact ⟨rfl, .inl (List.mem_singleton.1 now)⟩

theorem spendsOnce_of_begins (begins : Begins r s card next) :
    next.SpendsOnce s.acting s.playing := by
  have unpaid := payment?_of_begins begins
  constructor
  · intro t mem isCard
    exact (presents_of_begins begins mem).owner_of_card isCard
  · intro p paid
    cases unpaid.symm.trans paid
  · intro p lane paid
    cases unpaid.symm.trans paid

/-- A pick on sound boards spends nothing twice if nothing was spent twice before. -/
theorem spendsOnce_of_chooses (sound : s.field.Sound)
    (before : phase.SpendsOnce s.acting s.playing) (mem : target ∈ phase.offers)
    (chooses : Chooses r s phase target next) : next.SpendsOnce s.acting s.playing := by
  have there : ∀ p, next.payment? = some p → ∀ t ∈ next.offers,
      (s.afterPaying (some p)).Presents t := by
    intro p paid t offered
    rw [← paid]
    exact presents_of_chooses chooses offered
  constructor
  · intro t offered isCard
    exact (presents_of_chooses chooses offered).owner_of_card isCard
  · intro p paid isCard
    have own : p.target.owner = s.acting := by
      rcases payer_of_chooses chooses paid with rfl | ⟨p', paid', same⟩
      · exact (before.played _ mem isCard).1
      · rw [same] at isCard ⊢
        exact (before.discarded p' paid' isCard).1
    refine ⟨own, fun t named card => ?_⟩
    rcases List.mem_append.1 named with offered | chosen
    · exact (there p paid t offered).ne_of_discarded isCard own card
    · -- What is chosen now was on offer when the card had been discarded already.
      obtain ⟨kept, chosen⟩ := effectTargets_of_chooses chooses chosen
      have earlier := (before.discarded p (kept ▸ paid) isCard).2
      rcases chosen with rfl | chosen
      · exact earlier t (List.mem_append_left _ mem) card
      · exact earlier t (List.mem_append_right _ chosen) card
  · intro p lane paid isDrone moved t offered drone same owner
    exact (there p paid t offered).lane_of_moved sound isDrone moved drone same owner

theorem spendsOnce_of_idle : CardPhase.idle.SpendsOnce s.acting s.playing := by
  constructor
  · intro t mem
    exact absurd mem List.not_mem_nil
  · intro p paid
    cases paid
  · intro p lane paid
    cases paid

/-! ### Along a run -/

theorem spendsOnce_of_run (begins : begin r s card = .ok first)
    (sound : ∀ f ∈ Transition.fields s turns, f.Sound)
    (run : (advance r).Run s first turns s' phase) : phase.SpendsOnce s.acting s.playing := by
  refine invariant_of_chooses spendsOnce_of_idle ?_ sound run
    (spendsOnce_of_begins (begin_eq_ok_iff.1 begins))
  intro f phase target next sound before mem chooses
  exact spendsOnce_of_chooses (s := { s with field := f }) sound before mem chooses

/-! ### The lane that is left -/

end CardFlow

/-- The owner of a target has its drone in a lane. -/
def Battlefield.KeepsIn (f : Battlefield) (t : Target) (lane : LaneId) : Prop :=
  ∃ b, f.board? t.owner = some b ∧ ∃ d ∈ b.dronesIn lane, d.id = t.id

namespace CardFlow

/-- Among distinct lanes a drone is not moved to where it stood when it was picked, unless it
is hidden by a drone of its id in another lane. -/
theorem PickedOn.leaves {f : Battlefield} {p : Payment} {lane old : LaneId}
    (picked : PickedOn r s first turns s' phase f) (sound : f.Sound) (distinct : f.lanes.Nodup)
    (paid : phase.payment? = some p) (drone : p.target.kind = .drone)
    (moved : p.destinationLane = some lane) (kept : f.KeepsIn p.target old)
    (placed : ∀ st, f.Namesake p.target st → st.lane = old) : lane ≠ old := by
  rintro rfl
  obtain ⟨source, located, beside⟩ := picked.beside paid moved
  rw [Battlefield.Locates, if_pos drone] at located
  obtain ⟨found, looked, rfl⟩ := located
  obtain ⟨b, owned, d, stands, same⟩ := kept
  obtain ⟨listed, player⟩ := Battlefield.mem_boards_of_board? owned
  have known : lane ∈ f.lanes := (neighbours_sublist _ _).subset beside
  have there : (⟨b.player, lane, d⟩ : Station) ∈ f.stations :=
    Battlefield.mem_stations_iff.2 ⟨b, listed, rfl, known, stands⟩
  rw [← same] at looked
  have here : found.lane = lane := by
    rcases Battlefield.namesake_or_eq_of_station? sound there rfl looked with hides | ⟨rfl, -⟩
    · refine placed found ⟨?_, hides.stands, hides.owner, hides.id.trans same⟩
      rw [← player]
      exact hides.foreign
    · rfl
  rw [here] at beside
  exact not_mem_neighbours_self distinct beside

/-- From the moment on at which something has been paid it is not spent a second time: the
card in play is not on offer, a discarded card is neither offered nor chosen for the effect,
and a moved drone is offered in its new lane. This is not the lane it left, the one in which
its owner had it on the boards of its pick, if the lanes of these boards are distinct and no
drone of its id hides it from another lane. -/
theorem nothing_spent_twice {before after : List Turn} {s₁ s₂ : Situation}
    {paying last : CardPhase} (begins : begin r s card = .ok first)
    (run : (advance r).Run s first before s₁ paying)
    (rest : (advance r).Run s₁ paying after s₂ last)
    (sound : ∀ f ∈ Transition.fields s (before ++ after), f.Sound) :
    (∀ t ∈ last.offers, t.kind = .card → some t.id ≠ s.playing) ∧
    (∀ p, paying.payment? = some p → p.target.kind = .card →
      ∀ t ∈ last.offers ++ last.effectTargets, t.kind = .card → t.id ≠ p.target.id) ∧
    (∀ p lane, paying.payment? = some p → p.target.kind = .drone →
      p.destinationLane = some lane → ∀ t ∈ last.offers, t.kind = .drone →
        t.id = p.target.id → t.owner = p.target.owner → t.lane = some lane ∧
          (∃ f, PickedOn r s first before s₁ paying f) ∧
          ∀ f, PickedOn r s first before s₁ paying f → f.lanes.Nodup →
            ∀ old, f.KeepsIn p.target old → (∀ st, f.Namesake p.target st → st.lane = old) →
              t.lane ≠ some old) := by
  have whole := run.append rest
  have once := spendsOnce_of_run begins sound whole
  have unmoved := unmoved_of_run begins run
  refine ⟨fun t offered isCard => (once.played t offered isCard).2, ?_, ?_⟩
  · intro p paid discard t named isCard
    rcases records_of_run unmoved paid rest with rfl | ⟨q, paid', continues⟩
    · exact absurd named List.not_mem_nil
    · rw [← continues.target] at discard ⊢
      exact (once.discarded q paid' discard).2 t named isCard
  · intro p lane paid isDrone moved t offered drone same owner
    have here : t.lane = some lane := by
      rcases records_of_run unmoved paid rest with rfl | ⟨q, paid', continues⟩
      · exact absurd offered List.not_mem_nil
      · have moved' := continues.destinationLane lane moved
        rw [← continues.target] at isDrone same owner
        exact once.moved q lane paid' isDrone moved' t offered drone same owner
    have unpaid := payment?_of_begins (begin_eq_ok_iff.1 begins)
    have payable := exists_pickedOn unpaid run (Option.isSome_of_eq_some paid)
    refine ⟨here, payable, fun f picked distinct old kept placed => ?_⟩
    have fine : f.Sound := sound f (Transition.fields_subset_append picked.mem_fields)
    rw [here]
    exact mt Option.some.inj (picked.leaves fine distinct paid isDrone moved kept placed)

/-! ### A scout that is moved and targeted -/

def regroup : Card where
  id := "REGROUP"
  name := "Regroup"
  targeting := { type := "DRONE", affinity := some "FRIENDLY" }
  extraCost := some
    { type := "SINGLE_MOVE", targeting := { type := "DRONE", affinity := some "FRIENDLY" } }

def regrouping (lane : LaneId) : List Turn :=
  [.still (.select scoutTarget), .still (.select (.ofLane lane "player1"))]

def regrouped (lane : LaneId) (offers : List Target) : CardPhase :=
  .effect regroup
    (some { target := scoutTarget, sourceLane := "lane1", destinationLane := lane }) offers

/-- The scout that has been moved to the second lane is offered there, and not where it was. -/
theorem regrouped_scout_has_left :
    begin {} patrol regroup = .ok (.cost regroup [scoutTarget]) ∧
    (advance {}).Run patrol (.cost regroup [scoutTarget]) (regrouping "lane2") patrol
      (regrouped "lane2" [.ofDrone scout "player1" "lane2"]) ∧
    (∀ f ∈ Transition.fields patrol (regrouping "lane2"), f.Sound) ∧
    PickedOn {} patrol (.cost regroup [scoutTarget]) (regrouping "lane2") patrol
      (regrouped "lane2" [.ofDrone scout "player1" "lane2"]) patrol.field ∧
    patrol.field.lanes.Nodup ∧ patrol.field.KeepsIn scoutTarget "lane1" ∧
    (∀ st, patrol.field.Namesake scoutTarget st → st.lane = "lane1") ∧
    ∀ t ∈ (regrouped "lane2" [.ofDrone scout "player1" "lane2"]).offers,
      t.lane = some "lane2" ∧ t.lane ≠ some "lane1" := by
  have begins : begin {} patrol regroup = .ok (.cost regroup [scoutTarget]) := rfl
  have moves : (advance {}).Run patrol
      (.costDestination regroup { target := scoutTarget, sourceLane := "lane1" }
        [.ofLane "lane2" "player1"])
      [.still (.select (.ofLane "lane2" "player1"))] patrol
      (regrouped "lane2" [.ofDrone scout "player1" "lane2"]) := .cons rfl (.nil _ _)
  have picked : PickedOn {} patrol (.cost regroup [scoutTarget]) (regrouping "lane2") patrol
      (regrouped "lane2" [.ofDrone scout "player1" "lane2"]) patrol.field :=
    .intro (.nil _ _) rfl rfl moves
  have run : (advance {}).Run patrol (.cost regroup [scoutTarget]) (regrouping "lane2") patrol
      (regrouped "lane2" [.ofDrone scout "player1" "lane2"]) := .cons rfl moves
  have sound : ∀ f ∈ Transition.fields patrol (regrouping "lane2"), f.Sound := by decide
  have placed : ∀ st, patrol.field.Namesake scoutTarget st → st.lane = "lane1" :=
    fun st namesake => absurd rfl namesake.foreign
  have kept : patrol.field.KeepsIn scoutTarget "lane1" :=
    ⟨_, rfl, scout, List.mem_singleton.2 rfl, rfl⟩
  have once := nothing_spent_twice begins run (.nil _ _) fun f mem => sound f (by simpa using mem)
  refine ⟨begins, run, sound, picked, by decide, kept, placed, fun t offered => ?_⟩
  obtain rfl := List.mem_singleton.1 offered
  obtain ⟨here, -, left⟩ := once.2.2 _ "lane2" rfl rfl rfl _ offered rfl rfl rfl
  exact ⟨here, left _ picked (by decide) "lane1" kept placed⟩

/-- The lane of the scout is listed twice and so is beside itself: the scout is moved to the
lane that it leaves, and is offered there. -/
theorem regroups_in_same_lane :
    begin {} (scouting (.card regroup) ["lane1", "lane1"]) regroup =
      .ok (.cost regroup [scoutTarget, scoutTarget]) ∧
    (advance {}).Run (scouting (.card regroup) ["lane1", "lane1"])
      (.cost regroup [scoutTarget, scoutTarget]) (regrouping "lane1")
      (scouting (.card regroup) ["lane1", "lane1"])
      (regrouped "lane1" [scoutTarget, scoutTarget]) ∧
    (∀ f ∈ Transition.fields (scouting (.card regroup) ["lane1", "lane1"]) (regrouping "lane1"),
      f.Sound) ∧
    (scouting (.card regroup) ["lane1", "lane1"]).field.KeepsIn scoutTarget "lane1" ∧
    ∃ p, (regrouped "lane1" [scoutTarget, scoutTarget]).payment? = some p ∧
      p.target = scoutTarget ∧ p.destinationLane = some "lane1" ∧
      ∃ t ∈ (regrouped "lane1" [scoutTarget, scoutTarget]).offers, t.kind = .drone ∧
        t.id = p.target.id ∧ t.owner = p.target.owner ∧ t.lane = some "lane1" :=
  ⟨rfl, .cons rfl (.cons rfl (.nil _ _)), by decide,
    ⟨_, rfl, scout, List.mem_singleton.2 rfl, rfl⟩, _, rfl, rfl, rfl, scoutTarget,
    List.mem_cons_self, rfl, rfl, rfl, rfl⟩

end CardFlow

end DroneTactics
