import DroneTactics.Proofs.Fault
import DroneTactics.Targeting.Referee

/-!
The forms of offered targets. Every kind of thing that a rule can aim at offers targets
of its own form, whatever the boards and the demands.
-/

namespace DroneTactics

def Aim.OnBoard (aim : Aim) : Prop := aim = .drone ∨ aim = .lane ∨ aim = .shipSection

def Aim.Offers : Aim → Target → Prop
  | .drone, t => ∃ d owner lane, t = .ofDrone d owner lane
  | .lane, t => ∃ lane owner, t = .ofLane lane owner
  | .shipSection, t => ∃ sec owner, t = .ofSection sec owner
  | .self, t => (∃ sec owner, t = .ofSection sec owner) ∨ ∃ d owner lane, t = .ofDrone d owner lane
  | .handCard, t => ∃ c owner, t = .ofCard c owner
  | .upgrade, t => ∃ u owner holder, t = .ofUpgrade u owner holder
  | .droneType, t => ∃ type owner, t = .ofDroneType type owner
  | .nothing, _ => False

def Aim.kinds : Aim → List TargetKind
  | .drone => [.drone]
  | .lane => [.lane]
  | .shipSection => [.shipSection]
  | .self => [.shipSection, .drone]
  | .handCard => [.card]
  | .upgrade => [.upgrade]
  | .droneType => [.droneType]
  | .nothing => []

theorem Aim.Offers.kind_mem {aim : Aim} {t : Target} (h : aim.Offers t) : t.kind ∈ aim.kinds := by
  cases aim with
  | drone => obtain ⟨d, owner, lane, rfl⟩ := h; exact List.mem_cons_self
  | lane => obtain ⟨lane, owner, rfl⟩ := h; exact List.mem_cons_self
  | shipSection => obtain ⟨sec, owner, rfl⟩ := h; exact List.mem_cons_self
  | self =>
      rcases h with ⟨sec, owner, rfl⟩ | ⟨d, owner, lane, rfl⟩
      · exact List.mem_cons_self
      · exact List.mem_cons_of_mem _ List.mem_cons_self
  | handCard => obtain ⟨c, owner, rfl⟩ := h; exact List.mem_cons_self
  | upgrade => obtain ⟨u, owner, holder, rfl⟩ := h; exact List.mem_cons_self
  | droneType => obtain ⟨type, owner, rfl⟩ := h; exact List.mem_cons_self
  | nothing => exact h.elim

/-- Only drones and what an ability belongs to are targets of the kind of drones. -/
theorem Aim.Offers.aim_of_drone {aim : Aim} {t : Target} (h : aim.Offers t)
    (drone : t.kind = .drone) : aim = .drone ∨ aim = .self := by
  have mem := drone ▸ h.kind_mem
  revert mem
  cases aim <;> decide

theorem Aim.Offers.aim_of_card {aim : Aim} {t : Target} (h : aim.Offers t)
    (card : t.kind = .card) : aim = .handCard := by
  have mem := card ▸ h.kind_mem
  revert mem
  cases aim <;> decide

theorem Aim.Offers.aim_of_lane {aim : Aim} {t : Target} (h : aim.Offers t)
    (lane : t.kind = .lane) : aim = .lane := by
  have mem := lane ▸ h.kind_mem
  revert mem
  cases aim <;> decide

/-- A target that is of the kind of drones is a drone in a lane. -/
theorem Aim.Offers.ofDrone {aim : Aim} {t : Target} (h : aim.Offers t)
    (drone : t.kind = .drone) : ∃ d owner lane, t = .ofDrone d owner lane := by
  rcases h.aim_of_drone drone with rfl | rfl
  · exact h
  · rcases h with ⟨sec, owner, rfl⟩ | h
    · cases drone
    · exact h

namespace Situation

variable {s : Situation} {t : Target}

theorem offers_of_mem_droneTargets {rule : Targeting} (mem : t ∈ s.droneTargets rule) :
    Aim.drone.Offers t := by
  obtain ⟨⟨owner, board⟩, -, inside⟩ := List.mem_flatMap.1 mem
  obtain ⟨⟨lane, d⟩, -, passes⟩ := List.mem_filterMap.1 inside
  obtain ⟨-, same⟩ := Option.ite_none_right_eq_some.1 passes
  exact ⟨d, owner, lane, (Option.some.inj same).symm⟩

theorem offers_of_mem_laneTargets {rule : Targeting} (mem : t ∈ s.laneTargets rule) :
    Aim.lane.Offers t := by
  obtain ⟨⟨owner, board⟩, -, inside⟩ := List.mem_flatMap.1 mem
  obtain ⟨lane, -, rfl⟩ := List.mem_map.1 inside
  exact ⟨lane, owner, rfl⟩

theorem offers_of_mem_sectionTargets {rule : Targeting} (mem : t ∈ s.sectionTargets rule) :
    Aim.shipSection.Offers t := by
  obtain ⟨⟨owner, board⟩, -, inside⟩ := List.mem_flatMap.1 mem
  obtain ⟨sec, -, rfl⟩ := List.mem_map.1 inside
  exact ⟨sec, owner, rfl⟩

theorem offers_of_mem_selfTargets (mem : t ∈ s.selfTargets) : Aim.self.Offers t := by
  unfold selfTargets at mem
  split at mem
  case h_1 => simp at mem
  case h_2 sec _ => exact .inl ⟨sec, _, List.mem_singleton.1 mem⟩
  case h_3 d _ =>
      obtain ⟨st, -, rfl⟩ := Option.map_eq_some_iff.1 (Option.mem_toList.1 mem)
      exact .inr ⟨st.drone, st.owner, st.lane, rfl⟩

theorem offers_of_mem_handTargets {rule : Targeting} (mem : t ∈ s.handTargets rule) :
    Aim.handCard.Offers t := by
  unfold handTargets at mem
  split at mem
  case isFalse => simp at mem
  case isTrue =>
      split at mem
      case h_1 board _ =>
          obtain ⟨c, -, rfl⟩ := List.mem_map.1 mem
          exact ⟨c, s.acting, rfl⟩
      case h_2 => simp at mem

theorem offers_of_mem_upgradeTargets {rule : Targeting} (mem : t ∈ s.upgradeTargets rule) :
    Aim.upgrade.Offers t := by
  obtain ⟨⟨owner, board⟩, -, inside⟩ := List.mem_flatMap.1 mem
  obtain ⟨⟨holder, u⟩, -, rfl⟩ := List.mem_map.1 inside
  exact ⟨u, owner, holder, rfl⟩

theorem offers_of_mem_slotTargets {rules : Rules} {offers : List Target}
    (found : s.slotTargets rules = .ok offers) (mem : t ∈ offers) : Aim.droneType.Offers t := by
  unfold slotTargets at found
  split at found
  case h_2 =>
      obtain rfl := pure_eq_ok_iff.1 found
      simp at mem
  case h_1 card _ =>
      unfold slotTargetsOf at found
      split at found
      case h_2 =>
          obtain rfl := pure_eq_ok_iff.1 found
          simp at mem
      case h_1 board _ =>
          obtain ⟨fitting, -, found⟩ := bind_eq_ok_iff.1 found
          obtain rfl := pure_eq_ok_iff.1 found
          obtain ⟨type, -, rfl⟩ := List.mem_map.1 mem
          exact ⟨type, s.acting, rfl⟩

/-- Every target of an aim has one of its forms. -/
theorem offers_of_mem_targetsFor {rules : Rules} {rule : Targeting} {aim : Aim}
    {offers : List Target} (found : s.targetsFor rules rule aim = .ok offers)
    (mem : t ∈ offers) : aim.Offers t := by
  cases aim with
  | droneType => exact offers_of_mem_slotTargets found mem
  | drone =>
      obtain rfl := pure_eq_ok_iff.1 found
      exact offers_of_mem_droneTargets mem
  | lane =>
      obtain rfl := pure_eq_ok_iff.1 found
      exact offers_of_mem_laneTargets mem
  | shipSection =>
      obtain rfl := pure_eq_ok_iff.1 found
      exact offers_of_mem_sectionTargets mem
  | self =>
      obtain rfl := pure_eq_ok_iff.1 found
      exact offers_of_mem_selfTargets mem
  | handCard =>
      obtain rfl := pure_eq_ok_iff.1 found
      exact offers_of_mem_handTargets mem
  | upgrade =>
      obtain rfl := pure_eq_ok_iff.1 found
      exact offers_of_mem_upgradeTargets mem
  | nothing =>
      obtain rfl := pure_eq_ok_iff.1 found
      simp at mem

end Situation

namespace Referee

variable {r : Referee} {s : Situation} {rule : Targeting} {offers : List Target} {t : Target}

/-- The targets of a rule have a form of the rule's aim. -/
theorem offers_of_mem_ruleTargets (found : r.ruleTargets rule s = .ok offers)
    (mem : t ∈ offers) : ∃ aim, rule.aim? = some aim ∧ aim.Offers t := by
  unfold ruleTargets at found
  split at found
  case h_1 aim known =>
      split at found
      case isTrue => exact ⟨aim, known, Situation.offers_of_mem_targetsFor found mem⟩
      case isFalse =>
          obtain rfl := pure_eq_ok_iff.1 found
          simp at mem
  case h_2 =>
      obtain rfl := pure_eq_ok_iff.1 found
      simp at mem

end Referee

end DroneTactics
