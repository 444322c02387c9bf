import DroneTactics.Proofs.Selection.MoveStep
import DroneTactics.Proofs.Selection.Run
import DroneTactics.Proofs.Targeting.Mobility

/-!
The group moves that the boards allow, and the flow that reaches exactly them. A group
move is described without events: a lane with drones of the acting player, some of those
that are able to move, in any order and no more than the effect allows, and a lane beside
theirs. Drones that were picked and dropped again, groups that were confirmed early and
groups that reached their count leave no trace in it.
-/

namespace DroneTactics.MoveFlow

/-! ### Group moves -/

def limit (s : Situation) : Option Int :=
  s.definition.effect.bind Effect.count

def movers (rules : Rules) (s : Situation) (board : Board) (lane : LaneId) : List Target :=
  ((board.dronesIn lane).filter fun d => s.Mobile rules d lane s.acting).map
    (.ofDrone · s.acting lane)

structure Source (s : Situation) (board : Board) (lane : LaneId) : Prop where
  owned : s.field.board? s.acting = some board
  inside : lane ∈ s.field.lanes
  held : 0 < board.droneCount lane

/-- Some of the offered drones, each at most once and no more than the effect allows. A
group of no drones is never too large, even if the effect allows fewer than none. -/
structure Group (s : Situation) (offers drones : List Target) : Prop where
  distinct : (drones.map Target.key).Nodup
  offered : ∀ d ∈ drones, FirstOf offers d
  within : drones ≠ [] → ∀ n, limit s = some n → (drones.length : Int) ≤ n

structure Departs (rules : Rules) (s : Situation) (drones : List Target) (lane : LaneId) :
    Prop where
  remains : drones ≠ []
  group : ∃ board, Source s board lane ∧ Group s (movers rules s board lane) drones

/-- A group move: drones of a lane that can move together, and a lane beside theirs. -/
structure GroupMove (rules : Rules) (s : Situation) (drones : List Target)
    (lane goal : LaneId) : Prop where
  departs : Departs rules s drones lane
  beside : goal ∈ s.field.neighbours (some lane)

/-- What each phase of a group move holds on boards that stay as they are. -/
def Grouping (rules : Rules) (s : Situation) : MovePhase → Prop
  | .idle => True
  | .sourceLane count offers => .sourceLane count offers = beginGroup s
  | .drones lane count selected offers => count = limit s ∧ ∃ board, Source s board lane ∧
      offers = movers rules s board lane ∧ Group s offers selected
  | .destinationLane lane selected offers => Departs rules s selected lane ∧
      offers = (s.field.neighbours (some lane)).map (.ofLane · s.acting)
  | .complete drones lane goal => GroupMove rules s drones lane goal
  | .drone _ => False
  | .destination _ _ _ => False

variable {rules : Rules} {s : Situation} {board : Board} {lane : LaneId}
  {offers selected drones : List Target} {target : Target} {phase next : MovePhase}

/-! ### The drones of a lane -/

/-- The lanes that are offered first. -/
theorem firstOf_beginGroup_iff : FirstOf (beginGroup s).offers target ↔
    ∃ board lane, Source s board lane ∧ target = .ofLane lane s.acting := by
  unfold beginGroup MovePhase.offers
  rw [firstOf_map_ofLane_iff]
  constructor
  · rintro ⟨lane, mem, rfl⟩
    split at mem
    case h_1 board owned =>
        obtain ⟨inside, held⟩ := List.mem_filter.1 mem
        exact ⟨board, lane, ⟨owned, inside, by simpa using held⟩, rfl⟩
    case h_2 => simp at mem
  · rintro ⟨board, lane, ⟨owned, inside, held⟩, rfl⟩
    refine ⟨lane, ?_, rfl⟩
    simp only [owned]
    exact List.mem_filter.2 ⟨inside, by simpa using held⟩

/-- Drones that have been asked are able to move when they are known to be. -/
theorem movers_eq_of_asked (asked : rules.askToMove (board.dronesIn lane) = .ok ()) :
    ((board.dronesIn lane).filter fun d => s.canMove rules d lane s.acting).map
      (.ofDrone · s.acting lane) = movers rules s board lane := by
  have same : ∀ d ∈ board.dronesIn lane, s.canMove rules d lane s.acting =
      decide (s.Mobile rules d lane s.acting) := by
    intro d mem
    rw [Bool.eq_iff_iff, decide_eq_true_eq]
    constructor
    · exact Situation.mobile_of_canMove asked mem
    · intro mobile
      exact (Situation.mobile_iff.1 mobile).2
  rw [movers, List.filter_congr same]

/-- One drone that is able to move is enough for all drones to be asked. -/
theorem asked_of_mem_movers (mem : target ∈ movers rules s board lane) :
    rules.askToMove (board.dronesIn lane) = .ok () := by
  obtain ⟨d, inside, -⟩ := List.mem_map.1 mem
  have mobile : s.Mobile rules d lane s.acting := by
    simpa using (List.mem_filter.1 inside).2
  exact Rules.askToMove_of_known mobile.known _

/-! ### Groups -/

theorem Group.empty : Group s offers [] :=
  ⟨List.nodup_nil, by simp, fun h => absurd rfl h⟩

theorem Group.drop (group : Group s offers selected) (p : Target → Bool) :
    Group s offers (selected.filter p) := by
  refine ⟨?_, fun d mem => group.offered d (List.filter_sublist.mem mem), ?_⟩
  · exact List.Sublist.nodup (List.filter_sublist.map _) group.distinct
  · intro remains n allowed
    have some_in : selected ≠ [] := by
      rintro rfl
      exact remains rfl
    have bound := group.within some_in n allowed
    have smaller := List.length_filter_le p selected
    omega

theorem Group.add (group : Group s offers selected) (outside : ¬Selected selected target)
    (first : FirstOf offers target)
    (room : ∀ n, limit s = some n → ((selected ++ [target]).length : Int) ≤ n) :
    Group s offers (selected ++ [target]) := by
  refine ⟨?_, ?_, fun _ => room⟩
  · rw [List.map_append, List.nodup_append]
    refine ⟨group.distinct, by simp, ?_⟩
    rintro key mem other same rfl
    obtain ⟨t, inside, rfl⟩ := List.mem_map.1 mem
    exact outside ⟨t, inside, by simpa using same⟩
  · intro d mem
    rcases List.mem_append.1 mem with inside | last
    · exact group.offered d inside
    · rw [List.mem_singleton.1 last]
      exact first

/-! ### The phases on the way -/

theorem grouping_toDestination (departs : Departs rules s drones lane) :
    Grouping rules s (toDestination s lane drones) :=
  ⟨departs, rfl⟩

theorem grouping_of_chooses (grouping : Grouping rules s phase)
    (first : FirstOf phase.offers target) (chooses : Chooses rules s phase target next) :
    Grouping rules s next := by
  cases chooses with
  | droneGone => trivial
  | drone => exact grouping.elim
  | destination => exact grouping.elim
  | @sourceLane count offers _ board owned asked =>
      -- The lanes on offer are still the first ones, so the picked one is a source.
      have initial : MovePhase.sourceLane count offers = beginGroup s := grouping
      rw [initial] at first
      obtain ⟨board', lane, source, rfl⟩ := firstOf_beginGroup_iff.1 first
      obtain rfl : board = board' := by
        rw [source.owned, Option.some.injEq] at owned
        exact owned.symm
      have counted : count = limit s := (MovePhase.sourceLane.inj initial).1
      exact ⟨counted, board, source, movers_eq_of_asked asked, .empty⟩
  | dropped =>
      obtain ⟨counted, board, source, offered, group⟩ := grouping
      exact ⟨counted, board, source, offered, group.drop _⟩
  | full => exact grouping
  | last outside =>
      obtain ⟨counted, board, source, rfl, group⟩ := grouping
      refine grouping_toDestination ⟨by simp, board, source, group.add outside first ?_⟩
      intro n allowed
      rw [← counted, Option.some.injEq] at allowed
      exact Int.le_of_eq allowed
  | added outside room =>
      obtain ⟨rfl, board, source, rfl, group⟩ := grouping
      refine ⟨rfl, board, source, rfl, group.add outside first ?_⟩
      intro n allowed
      exact Int.le_of_lt (room n allowed)
  | destinationLane =>
      obtain ⟨departs, rfl⟩ := grouping
      obtain ⟨goal, beside, rfl⟩ := firstOf_map_ofLane_iff.1 first
      exact ⟨departs, beside⟩

/-- One event keeps the description. -/
theorem grouping_of_advance {event : Event} (grouping : Grouping rules s phase)
    (h : advance rules s phase event = .ok next) : Grouping rules s next := by
  rcases advance_cases h with rfl | rfl | ⟨lane, count, selected, offers, rfl, remains, rfl⟩ |
    ⟨target, first, chooses⟩
  · trivial
  · exact grouping
  · obtain ⟨-, board, source, rfl, group⟩ := grouping
    exact grouping_toDestination ⟨remains, board, source, group⟩
  · exact grouping_of_chooses grouping first chooses

theorem grouping_of_leads {events : List Event}
    (run : (advance rules).Leads s (beginGroup s) events phase) : Grouping rules s phase := by
  refine run.invariant grouping_of_advance ?_
  exact rfl

/-! ### Events for every group move -/

/-- A group is completed by picking its drones in their order. When the last of them
reaches the count the flow goes on by itself, and otherwise the group is confirmed. -/
theorem leads_toDestination {picked rest : List Target}
    (group : Group s offers (picked ++ rest)) (remains : picked ++ rest ≠ [])
    (room : ∀ n, limit s = some n → (picked.length : Int) < n) :
    ∃ events, (advance rules).Leads s (.drones lane (limit s) picked offers) events
      (toDestination s lane (picked ++ rest)) := by
  induction rest generalizing picked with
  | nil =>
      rw [List.append_nil] at remains ⊢
      exact ⟨[.confirm], .cons (advance_confirm remains) (Transition.leads_nil_iff.2 rfl)⟩
  | cons target rest ih =>
      have first : FirstOf offers target := group.offered target (by simp)
      have outside : ¬Selected picked target := by
        rintro ⟨t, inside, same⟩
        have apart := group.distinct
        rw [List.map_append, List.nodup_append] at apart
        exact apart.2.2 _ (List.mem_map_of_mem inside) _ (by simp) same
      have bound : ∀ n, limit s = some n → (picked.length + 1 + rest.length : Int) ≤ n := by
        intro n allowed
        have whole := group.within remains n allowed
        simp only [List.length_append, List.length_cons] at whole
        omega
      -- Only the last drone of the list can reach the count, since the whole list fits in it.
      by_cases reached : limit s = some ((picked ++ [target]).length : Int)
      · obtain rfl : rest = [] := by
          have whole := bound _ reached
          rw [List.length_append, List.length_singleton] at whole
          exact List.eq_nil_of_length_eq_zero (by omega)
        rw [reached]
        have last : Chooses rules s
            (.drones lane (some ((picked ++ [target]).length : Int)) picked offers) target
            (toDestination s lane (picked ++ [target])) := .last outside
        exact ⟨_, .cons (last.advance first) (Transition.leads_nil_iff.2 rfl)⟩
      · have more : ∀ n, limit s = some n → ((picked ++ [target]).length : Int) < n := by
          intro n allowed
          have whole := bound n allowed
          have other : ((picked ++ [target]).length : Int) ≠ n := by
            rintro rfl
            exact reached allowed
          rw [List.length_append, List.length_singleton] at other ⊢
          omega
        rw [← List.singleton_append, ← List.append_assoc] at group remains ⊢
        obtain ⟨events, run⟩ := ih group remains more
        have added : Chooses rules s (.drones lane (limit s) picked offers) target _ :=
          .added outside more
        exact ⟨_, .cons (added.advance first) run⟩

theorem Departs.leads (departs : Departs rules s drones lane) :
    ∃ events, (advance rules).Leads s (beginGroup s) events (toDestination s lane drones) := by
  obtain ⟨remains, board, source, group⟩ := departs
  have room : ∀ n, limit s = some n → (([] : List Target).length : Int) < n := by
    intro n allowed
    have whole := group.within remains n allowed
    have some_in := List.length_pos_iff.2 remains
    simp only [List.length_nil]
    omega
  have picks : ∃ events, (advance rules).Leads s
      (.drones lane (limit s) [] (movers rules s board lane)) events
      (toDestination s lane ([] ++ drones)) := leads_toDestination group remains room
  obtain ⟨events, run⟩ := picks
  -- Picking the lane asks all its drones; it has an answer since one is able to move.
  obtain ⟨d, mem⟩ := List.exists_mem_of_ne_nil _ remains
  have asked := asked_of_mem_movers (group.offered d mem).mem
  have first : FirstOf (beginGroup s).offers (.ofLane lane s.acting) :=
    firstOf_beginGroup_iff.2 ⟨board, lane, source, rfl⟩
  have chosen : Chooses rules s (beginGroup s) (.ofLane lane s.acting)
      (.drones lane (limit s) [] (movers rules s board lane)) := by
    rw [← movers_eq_of_asked asked]
    exact .sourceLane source.owned asked
  exact ⟨_, .cons (chosen.advance first) run⟩

/-- The flow reaches exactly the group moves that the boards allow. -/
theorem leads_complete_iff {goal : LaneId} :
    (∃ events, (advance rules).Leads s (beginGroup s) events (.complete drones lane goal)) ↔
      GroupMove rules s drones lane goal := by
  constructor
  · rintro ⟨events, run⟩
    exact grouping_of_leads run
  · rintro ⟨departs, beside⟩
    obtain ⟨events, run⟩ := departs.leads
    have offered : FirstOf (toDestination s lane drones).offers (.ofLane goal s.acting) :=
      firstOf_map_ofLane_iff.2 ⟨goal, beside, rfl⟩
    have chosen : Chooses rules s (toDestination s lane drones) (.ofLane goal s.acting)
        (.complete drones lane goal) := .destinationLane
    exact ⟨_, run.snoc (chosen.advance offered)⟩

end DroneTactics.MoveFlow
