import DroneTactics.Proofs.Targeting.Preview

/-!
Caps. A definition that hits lanes and filters can say how many drones it hits on each side of a
lane. It hits the first ones that the filter lets through, so that a higher cap only adds drones
at the end of what a side loses. Zero is not read as a cap: then every drone that the filter lets
through is hit, and this is the only case in which a side loses more drones than the cap says.
-/

namespace DroneTactics

def Definition.capped (d : Definition) (cap : Nat) : Definition :=
  d.withTargeting { d.targeting with maxTargets := some (cap : Int) }

theorem Definition.HitsLanes.capped {d : Definition} (hits : d.HitsLanes) (cap : Nat) :
    (d.capped cap).HitsLanes := by
  constructor
  · simpa [Definition.capped, Targeting.aim?] using hits.aims
  · simpa [Definition.capped] using hits.harmful

/-- The first elements up to a number that is not negative. -/
theorem takeUpTo_ofNat {α : Type} (n : Nat) (xs : List α) : takeUpTo (n : Int) xs = xs.take n := by
  simp [takeUpTo]

namespace Situation

variable {s : Situation} {d : Definition} {sides : List Target} {cap : Nat}

theorem laneHits_capped (filtered : d.targeting.affectedFilter ≠ []) (side : Target) :
    s.laneHits (d.capped cap).targeting side =
      if cap = 0 then s.struckOn d.targeting.affectedFilter side
      else (s.struckOn d.targeting.affectedFilter side).take cap := by
  unfold laneHits struckOn
  cases s.field.board? side.owner with
  | none => simp
  | some board =>
      simp [Definition.capped, filtered, filteredHits, takeUpTo_ofNat]

/-- Zero is no cap. -/
theorem affectedIds_capped_zero (hits : d.HitsLanes) (filtered : d.targeting.affectedFilter ≠ [])
    (sides : List Target) :
    s.affectedIds (d.capped 0) sides =
      (sides.flatMap (s.struckOn d.targeting.affectedFilter)).map Drone.id := by
  rw [affectedIds_of_hitsLanes (hits.capped 0), funext (laneHits_capped filtered)]
  rfl

theorem affectedIds_capped (hits : d.HitsLanes) (filtered : d.targeting.affectedFilter ≠ [])
    (positive : cap ≠ 0) (sides : List Target) :
    s.affectedIds (d.capped cap) sides =
      (sides.flatMap fun side =>
        (s.struckOn d.targeting.affectedFilter side).take cap).map Drone.id := by
  simp only [affectedIds_of_hitsLanes (hits.capped cap), funext (laneHits_capped filtered),
    if_neg positive]

theorem length_affectedIds_capped_le (hits : d.HitsLanes)
    (filtered : d.targeting.affectedFilter ≠ []) (positive : cap ≠ 0) (sides : List Target) :
    (s.affectedIds (d.capped cap) sides).length ≤ sides.length * cap := by
  rw [affectedIds_capped hits filtered positive, List.length_map]
  induction sides with
  | nil => simp
  | cons side sides ih =>
      have here := List.length_take_le cap (s.struckOn d.targeting.affectedFilter side)
      rw [List.flatMap_cons, List.length_append, List.length_cons, Nat.succ_mul]
      omega

theorem affectedIds_capped_prefix (hits : d.HitsLanes)
    (filtered : d.targeting.affectedFilter ≠ []) {higher : Nat} (positive : cap ≠ 0)
    (le : cap ≤ higher) (side : Target) :
    s.affectedIds (d.capped cap) [side] <+: s.affectedIds (d.capped higher) [side] := by
  have positive' : higher ≠ 0 := by omega
  rw [affectedIds_capped hits filtered positive, affectedIds_capped hits filtered positive',
    List.flatMap_singleton, List.flatMap_singleton]
  exact (List.take_prefix_take_left le).map Drone.id

end Situation

/-- Under a cap a definition hits the first drones of each side that its filter lets through,
side by side, exactly if the cap is not zero or there are no such drones; zero caps nothing.
Other caps bound what is hit, and a higher one adds to the end of what a side loses. -/
theorem affectedIds_capped_iff (s : Situation) (d : Definition) (hits : d.HitsLanes)
    (filtered : d.targeting.affectedFilter ≠ []) :
    (∀ (sides : List Target) (cap : Nat),
      s.affectedIds (d.capped cap) sides =
          (sides.flatMap fun side =>
            (s.struckOn d.targeting.affectedFilter side).take cap).map Drone.id ↔
        cap ≠ 0 ∨ ∀ side ∈ sides, s.struckOn d.targeting.affectedFilter side = []) ∧
    (∀ sides, s.affectedIds (d.capped 0) sides =
      (sides.flatMap (s.struckOn d.targeting.affectedFilter)).map Drone.id) ∧
    (∀ sides cap, cap ≠ 0 →
      (s.affectedIds (d.capped cap) sides).length ≤ sides.length * cap) ∧
    ∀ side cap higher, cap ≠ 0 → cap ≤ higher →
      s.affectedIds (d.capped cap) [side] <+: s.affectedIds (d.capped higher) [side] := by
  refine ⟨fun sides cap => ?_, Situation.affectedIds_capped_zero hits filtered,
    fun sides _ positive => Situation.length_affectedIds_capped_le hits filtered positive sides,
    fun side _ _ positive le => Situation.affectedIds_capped_prefix hits filtered positive le side⟩
  by_cases positive : cap = 0
  · subst positive
    have nobody : (sides.flatMap fun side =>
        (s.struckOn d.targeting.affectedFilter side).take 0) = [] :=
      List.flatMap_eq_nil_iff.2 fun _ _ => List.take_zero
    rw [Situation.affectedIds_capped_zero hits filtered, nobody, List.map_nil,
      List.map_eq_nil_iff, List.flatMap_eq_nil_iff]
    simp
  · exact iff_of_true (Situation.affectedIds_capped hits filtered positive sides) (.inl positive)

/-! ### A barrage that is capped -/

def middle : List Target := [.ofLane "lane2" "player1", .ofLane "lane2" "player2"]

/-- The enemy loses two drones to a barrage that is capped to none. -/
theorem barrage_capped_to_none :
    barrage.HitsLanes ∧ barrage.targeting.affectedFilter ≠ [] ∧
      (skirmish barrage).affectedIds (barrage.capped 0) [.ofLane "lane2" "player2"] =
        ["raider", "bomber"] ∧
      ([Target.ofLane "lane2" "player2"].flatMap fun side =>
        ((skirmish barrage).struckOn barrage.targeting.affectedFilter side).take 0).map Drone.id =
        [] :=
  ⟨⟨rfl, fun e effect => by cases effect; decide⟩, by decide, rfl, rfl⟩

/-- Each side loses its first drone to a barrage that is capped to one. -/
theorem barrage_capped_to_one :
    barrage.HitsLanes ∧ barrage.targeting.affectedFilter ≠ [] ∧
      (skirmish barrage).affectedIds (barrage.capped 1) middle = ["wreck", "raider"] ∧
      (skirmish barrage).affectedIds (barrage.capped 1) [.ofLane "lane2" "player2"] <+:
        (skirmish barrage).affectedIds (barrage.capped 2) [.ofLane "lane2" "player2"] := by
  have hits : barrage.HitsLanes := ⟨rfl, fun e effect => by cases effect; decide⟩
  have filtered : barrage.targeting.affectedFilter ≠ [] := by decide
  obtain ⟨first, -, -, grows⟩ := affectedIds_capped_iff (skirmish barrage) barrage hits filtered
  refine ⟨hits, filtered, ((first middle 1).2 (.inl (by decide))).trans rfl, ?_⟩
  exact grows _ 1 2 (by decide) (by decide)

end DroneTactics
