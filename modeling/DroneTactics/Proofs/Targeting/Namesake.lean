import DroneTactics.Proofs.Targeting.Choice
import DroneTactics.Proofs.Targeting.Payment
import DroneTactics.Proofs.Targeting.Standing
import Mathlib.Data.List.Nodup

/-!
Drones of one id on both boards. A drone is looked up by its id alone, and the first player's
board comes first. Ids are told apart on each board only, so a drone of the second player is
hidden by a drone of its id on the first board, and counts as standing where that one stands.
-/

namespace DroneTactics

namespace Battlefield

variable {f : Battlefield} {t : Target} {st st' found : Station} {id : String}
  {lane elsewhere : Option LaneId}

/-- A drone of the first player has the id of a target of the second one. -/
structure Namesake (f : Battlefield) (t : Target) (st : Station) : Prop where
  foreign : t.owner ≠ f.first.player
  stands : st ∈ f.stations
  owner : st.owner = f.first.player
  id : st.drone.id = t.id

def Hides (f : Battlefield) (t : Target) : Prop := ∃ st, f.Namesake t st

/-- A target is hidden by a drone of its id that stands in another lane. -/
def Misplaces (f : Battlefield) (t : Target) : Prop :=
  ∃ st, f.Namesake t st ∧ t.lane ≠ some st.lane

/-- A target is shown in the lane in which its owner has the drone, and the given lane is this
one unless a drone of its id hides it. -/
structure Finds (f : Battlefield) (t : Target) (lane : Option LaneId) : Prop where
  shown : f.ShowsInLane t
  right_iff : lane = t.lane ↔ ¬f.Misplaces t

/-! ### What is looked up -/

theorem owner_of_mem_stations (mem : st ∈ f.stations) :
    st.owner = f.first.player ∨ st.owner = f.second.player := by
  obtain ⟨b, listed, owner, -⟩ := mem_stations_iff.1 mem
  simp only [boards, List.mem_cons, List.not_mem_nil, or_false] at listed
  rcases listed with rfl | rfl
  · exact .inl owner
  · exact .inr owner

theorem eq_of_mem_stations (sound : f.Sound) (mem : st ∈ f.stations) (mem' : st' ∈ f.stations)
    (owner : st.owner = st'.owner) (same : st.drone.id = st'.drone.id) : st = st' := by
  obtain ⟨b, listed, player, -, stands⟩ := mem_stations_iff.1 mem
  obtain ⟨b', listed', player', -, stands'⟩ := mem_stations_iff.1 mem'
  obtain rfl : b = b' := by
    have here := board?_of_mem sound.players listed
    rw [← player, owner, player', board?_of_mem sound.players listed'] at here
    exact (Option.some.inj here).symm
  have one : (st.lane, st.drone) = (st'.lane, st'.drone) :=
    List.inj_on_of_nodup_map (sound.drones b listed) (Roster.mem_get_iff.1 stands)
      (Roster.mem_get_iff.1 stands') same
  obtain ⟨here, lane, drone⟩ := st
  obtain ⟨there, lane', drone'⟩ := st'
  obtain rfl : here = there := owner
  cases one
  rfl

/-- The first player's drone of an id is found before the second one's. -/
theorem owner_of_station? (sound : f.Sound) (looked : f.station? id = some found)
    (mem : st ∈ f.stations) (first : st.owner = f.first.player) (same : st.drone.id = id) :
    found.owner = f.first.player := by
  have halves : f.stations =
      (f.first.dronesAlong f.lanes).map (fun e => ⟨f.first.player, e.1, e.2⟩) ++
        (f.second.dronesAlong f.lanes).map (fun e => ⟨f.second.player, e.1, e.2⟩) := by
    simp [stations, boards]
  rw [station?, halves, List.find?_append] at looked
  rw [halves, List.mem_append] at mem
  rcases mem with here | there
  · cases early : ((f.first.dronesAlong f.lanes).map
        fun e => (⟨f.first.player, e.1, e.2⟩ : Station)).find? fun s => s.drone.id = id with
    | none => simpa [same] using List.find?_eq_none.1 early st here
    | some early' =>
        rw [early, Option.some_or, Option.some.injEq] at looked
        obtain ⟨e, -, rfl⟩ := List.mem_map.1 (List.mem_of_find?_eq_some early)
        rw [← looked]
  · obtain ⟨e, -, rfl⟩ := List.mem_map.1 there
    exact absurd first.symm sound.players

/-- The look-up for a shown drone finds it, or else the drone that hides it. -/
theorem namesake_or_eq_of_station? (sound : f.Sound) (mem : st ∈ f.stations)
    (shown : t = .ofDrone st.drone st.owner st.lane) (looked : f.station? t.id = some found) :
    f.Namesake t found ∨ found = st ∧ ¬f.Hides t := by
  subst shown
  have stands := mem_of_station? looked
  have same : found.drone.id = st.drone.id := id_of_station? looked
  -- A found drone of the same owner is the shown one, and one of the other owner stands on
  -- the board that comes first.
  by_cases owner : found.owner = st.owner
  · refine .inr ⟨eq_of_mem_stations sound stands mem owner same, ?_⟩
    rintro ⟨other, foreign, there, first, named⟩
    have before := owner_of_station? sound looked there first named
    exact foreign (owner.symm.trans before)
  · have foreign : st.owner ≠ f.first.player := by
      intro first
      exact owner ((owner_of_station? sound looked mem first rfl).trans first.symm)
    have second := (owner_of_mem_stations mem).resolve_left foreign
    have first := (owner_of_mem_stations stands).resolve_right (second ▸ owner)
    exact .inl ⟨foreign, stands, first, same⟩

theorem Namesake.eq (sound : f.Sound) (first : f.Namesake t st) (second : f.Namesake t st') :
    st = st' :=
  eq_of_mem_stations sound first.stands second.stands (first.owner.trans second.owner.symm)
    (first.id.trans second.id.symm)

theorem finds_of_station? (sound : f.Sound) (shown : f.ShowsInLane t)
    (looked : f.station? t.id = some found) : f.Finds t (some found.lane) := by
  refine ⟨shown, ?_⟩
  obtain ⟨st, mem, same⟩ := shown
  rcases namesake_or_eq_of_station? sound mem same looked with hides | ⟨rfl, visible⟩
  · constructor
    · rintro here ⟨other, namesake, elsewhere⟩
      rw [namesake.eq sound hides] at elsewhere
      exact elsewhere here.symm
    · intro placed
      apply Classical.byContradiction
      intro elsewhere
      exact placed ⟨found, hides, Ne.symm elsewhere⟩
  · have here : some found.lane = t.lane := by rw [same, Target.ofDrone]
    refine iff_of_true here ?_
    rintro ⟨other, namesake, -⟩
    exact visible ⟨other, namesake⟩

theorem finds_of_locates (sound : f.Sound) (shown : f.ShowsInLane t)
    (located : f.Locates t elsewhere lane) : f.Finds t lane := by
  have drone : t.kind = .drone := by
    obtain ⟨st, -, rfl⟩ := shown
    rfl
  rw [Locates, if_pos drone] at located
  obtain ⟨found, looked, rfl⟩ := located
  exact finds_of_station? sound shown looked

/-- What is found for a target is its owner's unless it is hidden. -/
theorem owner_of_station?_iff (sound : f.Sound) (shown : f.ShowsInLane t)
    (looked : f.station? t.id = some found) : found.owner = t.owner ↔ ¬f.Hides t := by
  obtain ⟨st, mem, same⟩ := shown
  rcases namesake_or_eq_of_station? sound mem same looked with hides | ⟨rfl, visible⟩
  · refine iff_of_false ?_ (fun visible => visible ⟨found, hides⟩)
    rw [hides.owner]
    exact hides.foreign.symm
  · have mine : found.owner = t.owner := by rw [same, Target.ofDrone]
    exact iff_of_true mine visible

end Battlefield

end DroneTactics
