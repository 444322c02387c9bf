import DroneTactics.Proofs.Selection.Answered
import DroneTactics.Proofs.Selection.Run
import Mathlib.Algebra.Ring.Parity

/-!
Picking drones for a group. A pick switches a drone on or off, so a group is read off its
picks without the flow: the drones that have been picked an odd number of times, in the order
of their last picks. A count moves the flow on as soon as a group has reached it, so while
drones are being picked there is always room for one more.
-/

namespace DroneTactics

variable {offers picks selected : List Target} {p t u target : Target}

/-! ### Picks and their order -/

def timesPicked (picks : List Target) (t : Target) : Nat :=
  (picks.map Target.key).count t.key

/-- The last pick of one target comes before the last pick of another: among the most recent
picks are some of the other and none of the one. -/
def LastPickedBefore (picks : List Target) (t u : Target) : Prop :=
  ∃ recent, recent <:+ picks ∧ t.key ∉ recent.map Target.key ∧ u.key ∈ recent.map Target.key

theorem timesPicked_congr (same : t.key = u.key) : timesPicked picks t = timesPicked picks u := by
  simp only [timesPicked, same]

theorem timesPicked_snoc_of_eq (same : t.key = p.key) :
    timesPicked (picks ++ [p]) t = timesPicked picks t + 1 := by
  simp [timesPicked, same]

theorem timesPicked_snoc_of_ne (other : t.key ≠ p.key) :
    timesPicked (picks ++ [p]) t = timesPicked picks t := by
  simp [timesPicked, Ne.symm other]

theorem LastPickedBefore.snoc (earlier : LastPickedBefore picks t u) (other : t.key ≠ p.key) :
    LastPickedBefore (picks ++ [p]) t u := by
  obtain ⟨recent, ⟨older, rfl⟩, none_of, some_of⟩ := earlier
  refine ⟨recent ++ [p], ⟨older, by simp⟩, ?_, ?_⟩
  · rw [List.map_append, List.mem_append, not_or]
    exact ⟨none_of, by simpa using other⟩
  · rw [List.map_append]
    exact List.mem_append_left _ some_of

theorem lastPickedBefore_snoc (other : t.key ≠ p.key) (same : u.key = p.key) :
    LastPickedBefore (picks ++ [p]) t u :=
  ⟨[p], List.suffix_append picks [p], by simpa using other, by simpa using same⟩

theorem LastPickedBefore.asymm (earlier : LastPickedBefore picks t u) :
    ¬LastPickedBefore picks u t := by
  rintro ⟨recent', suffix', none_of', some_of'⟩
  obtain ⟨recent, suffix, none_of, some_of⟩ := earlier
  -- The shorter one of the two ends of the picks is part of the longer one.
  rcases List.suffix_or_suffix_of_suffix suffix suffix' with inside | inside
  · exact none_of' ((inside.map Target.key).subset some_of)
  · exact none_of ((inside.map Target.key).subset some_of')

/-! ### The group that picks make -/

/-- A group that picks have switched on: the first offered targets of the keys that were picked
an odd number of times, ordered by their last picks. -/
structure Toggled (offers picks selected : List Target) : Prop where
  exactly : ∀ t, t ∈ selected ↔ FirstOf offers t ∧ Odd (timesPicked picks t)
  ordered : selected.Pairwise (LastPickedBefore picks)

namespace Toggled

theorem nil : Toggled offers [] [] :=
  ⟨by simp [timesPicked], .nil⟩

theorem nodup (toggled : Toggled offers picks selected) : selected.Nodup := by
  refine toggled.ordered.imp ?_
  rintro t _ earlier rfl
  exact earlier.asymm earlier

/-- Picks decide the group and its order. -/
theorem unique {other : List Target} (toggled : Toggled offers picks selected)
    (toggled' : Toggled offers picks other) : other = selected := by
  have perm : other.Perm selected := by
    refine (List.perm_ext_iff_of_nodup toggled'.nodup toggled.nodup).2 fun t => ?_
    rw [toggled.exactly, toggled'.exactly]
  refine List.Perm.eq_of_pairwise ?_ toggled'.ordered toggled.ordered perm
  intro t u _ _ earlier later
  exact absurd later earlier.asymm

theorem odd_of_selected (toggled : Toggled offers picks selected)
    (inside : MoveFlow.Selected selected t) : Odd (timesPicked picks t) := by
  obtain ⟨u, mem, same⟩ := inside
  rw [← timesPicked_congr same]
  exact ((toggled.exactly u).1 mem).2

/-! ### One more pick -/

theorem ignored (toggled : Toggled offers picks selected) (missing : pick? offers p = none) :
    Toggled offers (picks ++ [p]) selected := by
  have other : ∀ t, FirstOf offers t → t.key ≠ p.key := fun t first =>
    pick?_eq_none_iff.1 missing t first.mem
  refine ⟨fun t => ?_, ?_⟩
  · rw [toggled.exactly]
    refine and_congr_right fun first => ?_
    rw [timesPicked_snoc_of_ne (other t first)]
  · refine toggled.ordered.imp_of_mem fun {t u} mem _ earlier => ?_
    exact earlier.snoc (other t ((toggled.exactly t).1 mem).1)

theorem dropped (toggled : Toggled offers picks selected) (found : pick? offers p = some target)
    (inside : MoveFlow.Selected selected target) :
    Toggled offers (picks ++ [p]) (selected.filter (·.key ≠ target.key)) := by
  obtain ⟨first, same⟩ := pick?_eq_some_iff.1 found
  refine ⟨fun t => ?_, ?_⟩
  · rw [List.mem_filter, toggled.exactly]
    by_cases picked : t.key = p.key
    · -- The target was in the group, so its picks were odd and are even now.
      have odd : Odd (timesPicked picks t) := by
        rw [timesPicked_congr (picked.trans same.symm)]
        exact toggled.odd_of_selected inside
      simp [timesPicked_snoc_of_eq picked, Nat.odd_add_one, odd, picked, same]
    · simp [timesPicked_snoc_of_ne picked, picked, same]
  · refine (toggled.ordered.filter _).imp_of_mem fun {t u} mem _ earlier => ?_
    have other : t.key ≠ target.key := by simpa using (List.mem_filter.1 mem).2
    exact earlier.snoc (same ▸ other)

theorem added (toggled : Toggled offers picks selected) (found : pick? offers p = some target)
    (outside : ¬MoveFlow.Selected selected target) :
    Toggled offers (picks ++ [p]) (selected ++ [target]) := by
  obtain ⟨first, same⟩ := pick?_eq_some_iff.1 found
  have other : ∀ t ∈ selected, t.key ≠ p.key := by
    intro t mem picked
    exact outside ⟨t, mem, picked.trans same.symm⟩
  refine ⟨fun t => ?_, ?_⟩
  · rw [List.mem_append, List.mem_singleton]
    by_cases picked : t.key = p.key
    · have even : ¬Odd (timesPicked picks target) := by
        intro odd
        exact outside ⟨target, (toggled.exactly target).2 ⟨first, odd⟩, rfl⟩
      rw [timesPicked_snoc_of_eq picked, timesPicked_congr (picked.trans same.symm)]
      constructor
      · rintro (mem | rfl)
        · exact absurd picked (other t mem)
        · exact ⟨first, Nat.odd_add_one.2 even⟩
      · rintro ⟨first', -⟩
        have found' := pick?_eq_some_iff.2 ⟨first', picked⟩
        exact .inr (Option.some.inj (found'.symm.trans found))
    · rw [timesPicked_snoc_of_ne picked, toggled.exactly]
      refine or_iff_left ?_
      rintro rfl
      exact picked same
  · rw [List.pairwise_append]
    refine ⟨?_, List.pairwise_singleton _ _, ?_⟩
    · exact toggled.ordered.imp_of_mem fun {t u} mem _ earlier => earlier.snoc (other t mem)
    · intro t mem u last
      rw [List.mem_singleton.1 last]
      exact lastPickedBefore_snoc (other t mem) same

end Toggled

/-! ### Picks in the flow -/

def MovePhase.Gathering : MovePhase → Prop
  | .drones _ _ _ _ => True
  | _ => False

def MovePhase.Gathered : MovePhase → Prop
  | .idle => True
  | .destinationLane _ _ _ => True
  | .complete _ _ _ => True
  | _ => False

theorem MovePhase.Gathered.not_gathering {phase : MovePhase} (past : phase.Gathered) :
    ¬phase.Gathering := by
  cases phase <;> simp_all [Gathered, Gathering]

namespace MoveFlow

variable {rules : Rules} {s : Situation} {lane : LaneId} {count : Option Int}
  {phase next last : MovePhase} {events : List Event}

def Picks (rules : Rules) (s : Situation) (phase : MovePhase) (picks : List Target)
    (last : MovePhase) : Prop :=
  (advance rules).Leads s phase (picks.map .select) last

def HasRoom (count : Option Int) (selected : List Target) : Prop :=
  ∀ n, count = some n → (selected.length : Int) < n

@[simp] theorem picks_nil_iff : Picks rules s phase [] last ↔ phase = last :=
  Transition.leads_nil_iff

theorem picks_cons_iff : Picks rules s phase (p :: picks) last ↔
    ∃ next, advance rules s phase (.select p) = .ok next ∧ Picks rules s next picks last :=
  Transition.leads_cons_iff

theorem gathered_of_advance {event : Event} (past : phase.Gathered)
    (h : advance rules s phase event = .ok next) : next.Gathered := by
  rcases advance_cases h with rfl | rfl | ⟨_, _, _, _, rfl, -⟩ | ⟨target, -, chooses⟩
  · trivial
  · exact past
  · exact past.elim
  · cases chooses with
    | destinationLane => trivial
    | _ => exact past.elim

theorem gathered_of_picks (past : phase.Gathered) (run : Picks rules s phase picks last) :
    last.Gathered :=
  Transition.Leads.invariant gathered_of_advance run past

theorem advance_drones_of_none (missing : pick? offers p = none) :
    advance rules s (.drones lane count selected offers) (.select p) =
      .ok (.drones lane count selected offers) :=
  advance_select_of_none missing

theorem advance_drones_of_some (found : pick? offers p = some target) :
    advance rules s (.drones lane count selected offers) (.select p) = .ok next ↔
      Chooses rules s (.drones lane count selected offers) target next := by
  have picks : advance rules s (.drones lane count selected offers) (.select p) =
      choose rules s (.drones lane count selected offers) target := advance_select_of_some found
  rw [picks]
  exact choose_eq_ok_iff (firstOf_of_pick? found).ne_nil

/-- A pick keeps the group that the picks have made, unless it completes the group. -/
theorem toggled_of_advance (toggled : Toggled offers picks selected)
    (room : HasRoom count selected)
    (h : advance rules s (.drones lane count selected offers) (.select p) = .ok next) :
    next.Gathered ∨ ∃ selected', next = .drones lane count selected' offers ∧
      Toggled offers (picks ++ [p]) selected' ∧ HasRoom count selected' := by
  cases found : pick? offers p with
  | none =>
      rw [advance_drones_of_none found] at h
      obtain rfl := Except.ok.inj h
      exact .inr ⟨selected, rfl, toggled.ignored found, room⟩
  | some target =>
      cases (advance_drones_of_some found).1 h with
      | dropped inside =>
          refine .inr ⟨_, rfl, toggled.dropped found inside, fun n counted => ?_⟩
          have fewer := List.length_filter_le (fun t : Target => t.key ≠ target.key) selected
          have bound := room n counted
          omega
      | full _ enough =>
          obtain ⟨n, counted, full⟩ := enough
          exact absurd (room n counted) (Int.not_lt.2 full)
      | last => exact .inl trivial
      | added outside more => exact .inr ⟨_, rfl, toggled.added found outside, more⟩

/-- The group that has been made is kept along all picks after which drones are still picked. -/
theorem toggled_of_picks {done : List Target} (toggled : Toggled offers done selected)
    (room : HasRoom count selected)
    (run : Picks rules s (.drones lane count selected offers) picks last)
    (still : last.Gathering) :
    ∃ selected', last = .drones lane count selected' offers ∧
      Toggled offers (done ++ picks) selected' ∧ HasRoom count selected' := by
  induction picks generalizing done selected with
  | nil =>
      obtain rfl := picks_nil_iff.1 run
      rw [List.append_nil]
      exact ⟨selected, rfl, toggled, room⟩
  | cons p rest ih =>
      obtain ⟨next, head, tail⟩ := picks_cons_iff.1 run
      rcases toggled_of_advance toggled room head with past | ⟨selected', rfl, toggled', room'⟩
      · exact absurd still (gathered_of_picks past tail).not_gathering
      · rw [List.append_cons]
        exact ih toggled' room' tail

/-- Once the lane of a group has been chosen, every pick has an answer. -/
theorem exists_picks (rules : Rules) (s : Situation) (picks : List Target)
    (drawn : ∀ count offers, phase ≠ .sourceLane count offers) :
    ∃ last, Picks rules s phase picks last := by
  induction picks generalizing phase with
  | nil => exact ⟨phase, picks_nil_iff.2 rfl⟩
  | cons p rest ih =>
      obtain ⟨next, head⟩ := (exists_advance_iff _).2 (not_stalls_of_drawn drawn s (.select p))
      obtain ⟨last, tail⟩ := ih (ne_sourceLane_of_advance drawn head)
      exact ⟨last, picks_cons_iff.2 ⟨next, head, tail⟩⟩

/-- Picks of what is not offered can be left out. -/
theorem picks_filter_iff (still : last.Gathering) :
    Picks rules s (.drones lane count selected offers)
        (picks.filter fun p => (pick? offers p).isSome) last ↔
      Picks rules s (.drones lane count selected offers) picks last := by
  induction picks generalizing selected with
  | nil => exact Iff.rfl
  | cons p rest ih =>
      cases found : pick? offers p with
      | none =>
          rw [List.filter_cons_of_neg (by simp [found]), ih, picks_cons_iff,
            advance_drones_of_none found]
          simp
      | some target =>
          rw [List.filter_cons_of_pos (by simp [found]), picks_cons_iff, picks_cons_iff]
          refine exists_congr fun next => and_congr_right fun head => ?_
          cases (advance_drones_of_some found).1 head with
          | dropped => exact ih
          | full => exact ih
          | added => exact ih
          | last =>
              -- No drone is picked any more for a group that is complete.
              have past : (toDestination s lane (selected ++ [target])).Gathered := trivial
              have never : ∀ picks, ¬Picks rules s (toDestination s lane _) picks last :=
                fun picks run => (gathered_of_picks past run).not_gathering still
              exact iff_of_false (never _) (never _)

/-- Picking twice a drone that is not in the group leaves the phase as it was. -/
theorem eq_of_picks_twice {again : Target} (offered : (pick? offers p).isSome)
    (outside : ¬Selected selected p) (same : again.key = p.key)
    (run : Picks rules s (.drones lane count selected offers) [p, again] last)
    (still : last.Gathering) : last = .drones lane count selected offers := by
  obtain ⟨target, found⟩ := Option.isSome_iff_exists.1 offered
  have found' : pick? offers again = some target := by rw [pick?_congr same, found]
  obtain ⟨next, first, run⟩ := picks_cons_iff.1 run
  obtain ⟨_, second, run⟩ := picks_cons_iff.1 run
  obtain rfl := picks_nil_iff.1 run
  rw [advance_drones_of_some found] at first
  cases first with
  | dropped inside =>
      rw [Selected, key_of_pick? found] at inside
      exact absurd inside outside
  | last =>
      have past : (toDestination s lane (selected ++ [target])).Gathered := trivial
      exact absurd still (gathered_of_advance past second).not_gathering
  | full outside enough =>
      -- A group that was full is full still, so the second pick finds what the first one found.
      rw [(advance_drones_of_some found').2 (.full outside enough)] at second
      exact (Except.ok.inj second).symm
  | added outside =>
      have inside : Selected (selected ++ [target]) target := ⟨target, by simp, rfl⟩
      rw [(advance_drones_of_some found').2 (.dropped inside)] at second
      obtain rfl := Except.ok.inj second
      have kept : ∀ t ∈ selected, t.key ≠ target.key := fun t mem picked =>
        outside ⟨t, mem, picked⟩
      simpa using kept

structure Toggling (rules : Rules) (s : Situation) (lane : LaneId) (count : Option Int)
    (offers : List Target) : Prop where
  answered : ∀ picks, ∃ last, Picks rules s (.drones lane count [] offers) picks last
  group : ∀ picks last, Picks rules s (.drones lane count [] offers) picks last →
    last.Gathering → ∃ selected, last = .drones lane count selected offers ∧
      Toggled offers picks selected ∧ (∀ other, Toggled offers picks other → other = selected) ∧
      HasRoom count selected
  offered : ∀ picks last, last.Gathering →
    (Picks rules s (.drones lane count [] offers)
        (picks.filter fun p => (pick? offers p).isSome) last ↔
      Picks rules s (.drones lane count [] offers) picks last)
  parity : ∀ picks picks' selected selected',
    Picks rules s (.drones lane count [] offers) picks (.drones lane count selected offers) →
    Picks rules s (.drones lane count [] offers) picks' (.drones lane count selected' offers) →
    (∀ t ∈ offers, timesPicked picks t % 2 = timesPicked picks' t % 2) →
    ∀ t, t ∈ selected ↔ t ∈ selected'
  twice : ∀ selected p again last, (pick? offers p).isSome → ¬Selected selected p →
    again.key = p.key → Picks rules s (.drones lane count selected offers) [p, again] last →
    last.Gathering → last = .drones lane count selected offers

/-- Drones are switched on and off by picking them, whatever number of them is called for. -/
theorem picks_toggle_drones (rules : Rules) (s : Situation) (lane : LaneId)
    (offers : List Target) (counts : ∀ n, count = some n → 1 ≤ n) :
    Toggling rules s lane count offers := by
  have group : ∀ picks last, Picks rules s (.drones lane count [] offers) picks last →
      last.Gathering → ∃ selected, last = .drones lane count selected offers ∧
        Toggled offers picks selected ∧ HasRoom count selected :=
    fun picks last run still => toggled_of_picks .nil counts run still
  refine ⟨fun picks => exists_picks rules s picks nofun, ?_, fun _ _ => picks_filter_iff, ?_,
    fun _ _ _ _ => eq_of_picks_twice⟩
  · intro picks last run still
    obtain ⟨selected, rfl, toggled, room⟩ := group picks last run still
    exact ⟨selected, rfl, toggled, fun _ => toggled.unique, room⟩
  · intro picks picks' selected selected' run run' same t
    obtain ⟨_, ⟨⟩, toggled, -⟩ := group picks _ run trivial
    obtain ⟨_, ⟨⟩, toggled', -⟩ := group picks' _ run' trivial
    rw [toggled.exactly, toggled'.exactly]
    refine and_congr_right fun first => ?_
    rw [Nat.odd_iff, Nat.odd_iff, same t first.mem]

/-- Of a scout and a wreck on offer the scout is picked, dropped and picked again, so that it
comes after the wreck. A raider that is not on offer does not matter. -/
theorem scout_joins_again :
    let scout := scoutTarget
    let wreck : Target := .ofDrone wreck "player1" "lane1"
    let raider : Target := .ofDrone raider "player2" "lane1"
    let offers := [scout, wreck]
    let group := fun selected => MovePhase.drones "lane1" (some 3) selected offers
    (∀ n, some (3 : Int) = some n → 1 ≤ n) ∧
      Picks {} patrol (group []) [scout, wreck, raider, scout, scout] (group [wreck, scout]) ∧
      Toggled offers [scout, wreck, raider, scout, scout] [wreck, scout] ∧
      Picks {} patrol (group []) [scout, wreck, scout, scout] (group [wreck, scout]) ∧
      Picks {} patrol (group []) [scout, wreck] (group [scout, wreck]) ∧
      (∀ t, t ∈ [wreck, scout] ↔ t ∈ [scout, wreck]) ∧
      ∀ last, Picks {} patrol (group [wreck]) [scout, scout] last → last.Gathering →
        last = group [wreck] := by
  intro scout wreck raider offers group
  have counts : ∀ n, some (3 : Int) = some n → 1 ≤ n := by simp
  have toggling := picks_toggle_drones {} patrol "lane1" offers counts
  have run : Picks {} patrol (group []) [scout, wreck, raider, scout, scout]
      (group [wreck, scout]) := by
    repeat refine picks_cons_iff.2 ⟨_, rfl, ?_⟩
    exact picks_nil_iff.2 rfl
  have ordered : Picks {} patrol (group []) [scout, wreck] (group [scout, wreck]) := by
    repeat refine picks_cons_iff.2 ⟨_, rfl, ?_⟩
    exact picks_nil_iff.2 rfl
  have still : (group [wreck, scout]).Gathering := trivial
  have outside : ¬Selected [wreck] scout := by
    rw [← selected_iff]
    decide
  obtain ⟨_, ⟨⟩, toggled, -⟩ := toggling.group _ _ run still
  exact ⟨counts, run, toggled, (toggling.offered _ _ still).2 run, ordered,
    toggling.parity _ _ _ _ run ordered (by decide),
    fun last => toggling.twice _ _ _ last rfl outside rfl⟩

end MoveFlow

end DroneTactics
