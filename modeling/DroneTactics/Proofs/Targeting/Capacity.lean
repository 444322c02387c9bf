import DroneTactics.Proofs.Board.Station
import DroneTactics.Proofs.Definition.Validity
import DroneTactics.Proofs.Targeting.Slots
import DroneTactics.Targeting.Referee
import Mathlib.Data.List.Nodup

/-!
Upgrades fit. A card that is played as an upgrade is attached to a drone type that is offered
for it. What is offered is exactly what still has room afterwards, and what has not had the
card more often than it may. So however many upgrade cards are played, and by whom, a drone
type that is not overloaded at the start never is.
-/

namespace DroneTactics

/-! ### Attaching an upgrade -/

/-- An upgrade is made of a card: it carries the card's id and takes the card's slots. -/
structure Upgrade.MadeOf (u : Upgrade) (card : Card) : Prop where
  cardId : u.cardId = card.id
  slots : u.slots = some card.slots

namespace Board

def attach (b : Board) (type : String) (u : Upgrade) : Board :=
  { b with upgrades := b.upgrades.set type (b.upgradesOf type ++ [u]) }

def WithinSlots (b : Board) (slots : Int) (type : DroneType) : Prop :=
  slotsTaken slots (b.upgradesOf type.name) ≤ type.upgradeSlots

def upgradesFrom (b : Board) (card : Card) (type : String) : List Upgrade :=
  (b.upgradesOf type).filter fun u => u.cardId = card.id

def WithinTimes (b : Board) (times : Int) (card : Card) (type : DroneType) : Prop :=
  ((b.upgradesFrom card type.name).length : Int) ≤ card.maxApplications.getD times

instance (b : Board) (slots : Int) (type : DroneType) : Decidable (b.WithinSlots slots type) :=
  inferInstanceAs (Decidable (_ ≤ _))

instance (b : Board) (times : Int) (card : Card) (type : DroneType) :
    Decidable (b.WithinTimes times card type) :=
  inferInstanceAs (Decidable (_ ≤ _))

variable {b : Board} {type other : String} {u : Upgrade}

@[simp] theorem upgradesOf_attach_self :
    (b.attach type u).upgradesOf type = b.upgradesOf type ++ [u] :=
  Roster.get_set_self _ _ _

theorem upgradesOf_attach_of_ne (apart : other ≠ type) :
    (b.attach type u).upgradesOf other = b.upgradesOf other :=
  (Roster.get_set _ _ _ _).trans (if_neg apart)

end Board

theorem slotsTaken_append (slots : Int) (us vs : List Upgrade) :
    slotsTaken slots (us ++ vs) = slotsTaken slots us + slotsTaken slots vs := by
  induction us with
  | nil => exact (Int.zero_add _).symm
  | cons u us ih => rw [List.cons_append, slotsTaken, slotsTaken, ih, Int.add_assoc]

theorem orUsual_of_pos {stated : Option Int} {usual : Int} (positive : ∀ n ∈ stated, 1 ≤ n) :
    orUsual stated usual = stated.getD usual := by
  cases stated with
  | none => rfl
  | some n =>
      have apart : n ≠ 0 := fun zero => by simpa [zero] using positive n rfl
      exact if_neg apart

/-- A drone type has room for a card, and has not had it too often, if that is still so once the
card is attached to it. -/
theorem Board.fits_iff_attach {b : Board} {slots times : Int} {card : Card} {type : DroneType}
    {u : Upgrade} (sized : 1 ≤ card.slots) (often : ∀ n ∈ card.maxApplications, 1 ≤ n)
    (made : u.MadeOf card) : b.Fits slots times card type ↔
      (b.attach type.name u).WithinSlots slots type ∧
        (b.attach type.name u).WithinTimes times card type := by
  have needed : orUsual (some card.slots) slots = card.slots :=
    orUsual_of_pos fun n stated => Option.some.inj stated ▸ sized
  rw [fits_iff, needed, orUsual_of_pos often, WithinSlots, WithinTimes, upgradesFrom,
    upgradesOf_attach_self, slotsTaken_append, List.filter_append, List.length_append,
    Int.lt_iff_add_one_le]
  simp [slotsTaken, made.slots, made.cardId]

def Battlefield.attach (f : Battlefield) (player : PlayerId) (type : String) (u : Upgrade) :
    Battlefield :=
  match f.board? player with
  | some b => f.withBoard (b.attach type u)
  | none => f

namespace Battlefield

variable {f : Battlefield} {b : Board} {player other : PlayerId} {type : String} {u : Upgrade}

theorem board?_attach_self (owned : f.board? player = some b) :
    (f.attach player type u).board? player = some (b.attach type u) := by
  rw [attach, owned]
  exact board?_withBoard owned (mem_boards_of_board? owned).2

theorem board?_attach_of_ne (apart : other ≠ player) :
    (f.attach player type u).board? other = f.board? other := by
  unfold attach
  split
  case h_1 b owned => exact board?_withBoard_of_ne owned (mem_boards_of_board? owned).2 apart
  case h_2 => rfl

end Battlefield

/-! ### Playing upgrade cards -/

/-- One of some cards is played as an upgrade: it becomes an upgrade for a target that is
offered for it. -/
structure Referee.Attaches (r : Referee) (cards : List Card) (s : Situation) (card : Card)
    (t : Target) (u : Upgrade) : Prop where
  known : card ∈ cards
  upgrade : card.isUpgrade = true
  played : s.definition = .card card
  offered : ∃ offers, r.targets s = .ok offers ∧ t ∈ offers
  made : u.MadeOf card

/-- Some of the cards are played as upgrades, one after the other and by any player, and lead
from one field to another. -/
inductive Referee.Equips (r : Referee) (cards : List Card) (f : Battlefield) : Battlefield → Prop
  | nothing : r.Equips cards f f
  | more {s : Situation} {card : Card} {t : Target} {u : Upgrade} :
      r.Equips cards f s.field → r.Attaches cards s card t u →
        r.Equips cards f (s.field.attach s.acting t.id u)

namespace Referee

variable {r : Referee} {slots times : Int} {cards : List Card} {abilities : List Ability}
  {lanes : List LaneId} {s : Situation} {card : Card} {b : Board} {t : Target} {u : Upgrade}
  {f g : Battlefield} {player : PlayerId} {type : DroneType}

/-- The drone types that an upgrade card is offered are those that it fits. -/
theorem targets_eq_ok (counts : r.rules.Counts slots times) (upgrade : card.isUpgrade = true)
    (played : s.definition = .card card) (owned : s.field.board? s.acting = some b) :
    r.targets s = .ok ((b.pool.filter fun type => b.Fits slots times card type).map
      (.ofDroneType · s.acting)) := by
  have upgrades : s.definition.isUpgrade = true := by rw [played]; exact upgrade
  rw [targets, if_pos upgrades, Situation.slotTargets, played]
  exact Situation.slotTargetsOf_eq_ok counts owned card

/-- A drone type of the pool is offered for a card of a valid set if and only if the play leaves
it within its bounds. -/
theorem ofDroneType_mem_iff (valid : (validate cards abilities lanes).valid = true)
    (known : card ∈ cards) (upgrade : card.isUpgrade = true) (made : u.MadeOf card)
    (pooled : type ∈ b.pool) :
    Target.ofDroneType type s.acting ∈ ((b.pool.filter fun type => b.Fits slots times card type).map
      (.ofDroneType · s.acting)) ↔
      (b.attach type.name u).WithinSlots slots type ∧
        (b.attach type.name u).WithinTimes times card type := by
  obtain ⟨sized, often⟩ := amounts_of_valid valid known upgrade
  rw [← Board.fits_iff_attach sized often made, List.mem_map]
  constructor
  · rintro ⟨type', mem, same⟩
    have same : some (Entity.droneType type') = some (.droneType type) :=
      congrArg Target.entity same
    cases same
    exact of_decide_eq_true (List.mem_filter.1 mem).2
  · exact fun fits => ⟨type, List.mem_filter.2 ⟨pooled, decide_eq_true fits⟩, rfl⟩

section

variable (attaches : r.Attaches cards s card t u) (counts : r.rules.Counts slots times)
  (valid : (validate cards abilities lanes).valid = true)
  (owned : s.field.board? s.acting = some b)

include attaches counts valid owned

/-- What is played is attached to a drone type of the acting player's pool, and leaves it within
its bounds. -/
theorem Attaches.within :
    ∃ type ∈ b.pool, t = .ofDroneType type s.acting ∧
      (b.attach type.name u).WithinSlots slots type ∧
        (b.attach type.name u).WithinTimes times card type := by
  obtain ⟨known, upgrade, played, ⟨offers, found, mem⟩, made⟩ := attaches
  obtain rfl := Except.ok.inj (found.symm.trans (targets_eq_ok counts upgrade played owned))
  obtain ⟨type, fitting, rfl⟩ := List.mem_map.1 mem
  have pooled := (List.mem_filter.1 fitting).1
  exact ⟨type, pooled, rfl, (ofDroneType_mem_iff valid known upgrade made pooled).1 mem⟩

/-- A play leaves every drone type of the pool within its slots that was so before. -/
theorem Attaches.withinSlots (distinct : (b.pool.map DroneType.name).Nodup)
    (pooled : type ∈ b.pool) (before : b.WithinSlots slots type) :
    (b.attach t.id u).WithinSlots slots type := by
  obtain ⟨chosen, among, rfl, within, -⟩ := attaches.within counts valid owned
  by_cases same : type.name = chosen.name
  · obtain rfl := List.inj_on_of_nodup_map distinct pooled among same
    exact within
  · rw [Board.WithinSlots, Target.ofDroneType, Board.upgradesOf_attach_of_ne same]
    exact before

/-- A play leaves no card applied too often that was not so before. -/
theorem Attaches.withinTimes {other : Card} (known : other ∈ cards)
    (before : b.WithinTimes times other type) :
    (b.attach t.id u).WithinTimes times other type := by
  obtain ⟨chosen, -, rfl, -, within⟩ := attaches.within counts valid owned
  by_cases same : type.name = chosen.name
  · by_cases again : card.id = other.id
    · obtain rfl := List.inj_on_of_nodup_map (nodup_ids_of_valid valid) attaches.known known again
      simpa [Board.WithinTimes, Target.ofDroneType, same] using within
    · have kept : (b.attach chosen.name u).upgradesFrom other type.name =
          b.upgradesFrom other type.name := by
        simp [Board.upgradesFrom, same, attaches.made.cardId, again]
      rw [Board.WithinTimes, Target.ofDroneType, kept]
      exact before
  · rw [Board.WithinTimes, Board.upgradesFrom, Target.ofDroneType,
      Board.upgradesOf_attach_of_ne same]
    exact before

end

/-- What is true of a player's board and kept by every play of that player holds however many
upgrade cards are played. -/
theorem Equips.invariant {P : Board → Prop} (run : r.Equips cards f g)
    (owned : f.board? player = some b) (initial : P b)
    (keeps : ∀ {s card t u b}, r.Attaches cards s card t u → s.field.board? s.acting = some b →
      P b → P (b.attach t.id u)) : ∃ b', g.board? player = some b' ∧ P b' := by
  induction run with
  | nothing => exact ⟨b, owned, initial⟩
  | @more s card t u _ attaches ih =>
      obtain ⟨b', owned', known⟩ := ih
      by_cases acts : player = s.acting
      · subst acts
        exact ⟨_, Battlefield.board?_attach_self owned', keeps attaches owned' known⟩
      · exact ⟨b', (Battlefield.board?_attach_of_ne acts).trans owned', known⟩

end Referee

/-- No drone type is overloaded, and none that has room is passed over. Under rules that reckon
with integers the drone types offered for an upgrade card of a valid set are those of the pool
that the play leaves within their slots and within the card's applications; and what is within
them at the start is so after every sequence of such plays. -/
theorem upgrades_within_capacity {r : Referee} {slots times : Int}
    (counts : r.rules.Counts slots times) {cards : List Card} {abilities : List Ability}
    {lanes : List LaneId} (valid : (validate cards abilities lanes).valid = true) :
    (∀ s card b u, card ∈ cards → card.isUpgrade = true → s.definition = .card card →
      s.field.board? s.acting = some b → u.MadeOf card →
      ∃ offers, r.targets s = .ok offers ∧
        (∀ t ∈ offers, ∃ type ∈ b.pool, t = .ofDroneType type s.acting ∧
          (b.attach type.name u).WithinSlots slots type ∧
          (b.attach type.name u).WithinTimes times card type) ∧
        ∀ type ∈ b.pool, .ofDroneType type s.acting ∉ offers →
          ¬((b.attach type.name u).WithinSlots slots type ∧
            (b.attach type.name u).WithinTimes times card type)) ∧
    ∀ f g player b, r.Equips cards f g → f.board? player = some b →
      (b.pool.map DroneType.name).Nodup →
      ∃ b', g.board? player = some b' ∧ b'.pool = b.pool ∧
        ∀ type ∈ b.pool, (b.WithinSlots slots type → b'.WithinSlots slots type) ∧
          ∀ card ∈ cards, b.WithinTimes times card type → b'.WithinTimes times card type := by
  constructor
  · intro s card b u known upgrade played owned made
    have found := Referee.targets_eq_ok counts upgrade played owned
    refine ⟨_, found, fun t mem => ?_, fun type pooled passed fits => passed ?_⟩
    · have attaches : r.Attaches cards s card t u :=
        ⟨known, upgrade, played, ⟨_, found, mem⟩, made⟩
      exact attaches.within counts valid owned
    · exact (Referee.ofDroneType_mem_iff valid known upgrade made pooled).2 fits
  · intro f g player b run owned distinct
    refine run.invariant owned ⟨rfl, fun type _ => ⟨id, fun _ _ => id⟩⟩ ?_
    rintro s card t u b' attaches owned' ⟨pool, within⟩
    refine ⟨pool, fun type pooled => ?_⟩
    obtain ⟨room, often⟩ := within type pooled
    rw [← pool] at distinct pooled
    exact ⟨fun before => attaches.withinSlots counts valid owned' distinct pooled (room before),
      fun other known before =>
        attaches.withinTimes counts valid owned' known (often other known before)⟩

def freighter : DroneType := { name := "Freighter", upgradeSlots := 3 }

def courier : DroneType := { name := "Courier", upgradeSlots := 1 }

def yard : Battlefield where
  first :=
    { player := "player1"
      pool := [freighter, courier]
      upgrades := .ofList [("Freighter", [{ instanceId := "u1", cardId := "COATING" }])] }
  second := { player := "player2" }

def plating : Card where
  id := "PLATING"
  name := "Plating"
  type := "Upgrade"
  slots := 2

def plate : Upgrade := { instanceId := "u2", cardId := "PLATING", slots := some 2 }

/-- In the yard only the freighter can take the plating, and it is not overloaded by it. -/
theorem yard_plating :
    let r : Referee := {}
    let s : Situation := { acting := "player1", field := yard, definition := .card plating }
    let after := yard.attach "player1" "Freighter" plate
    r.rules.Counts 1 1 ∧ (validate [plating] [] standardLanes).valid = true ∧
      r.targets s = .ok [.ofDroneType freighter "player1"] ∧
      ¬((yard.first.attach "Courier" plate).WithinSlots 1 courier ∧
        (yard.first.attach "Courier" plate).WithinTimes 1 plating courier) ∧
      r.Equips [plating] yard after ∧
      ∃ b, after.board? "player1" = some b ∧ b.WithinSlots 1 freighter ∧
        b.WithinTimes 1 plating freighter := by
  intro r s after
  have counts : r.rules.Counts 1 1 := Rules.counts_usual
  have valid : (validate [plating] [] standardLanes).valid = true := by decide
  obtain ⟨offered, kept⟩ := upgrades_within_capacity counts valid
  have offers : r.targets s = .ok [.ofDroneType freighter "player1"] := rfl
  have known : plating ∈ [plating] := List.mem_singleton.2 rfl
  have made : plate.MadeOf plating := ⟨rfl, rfl⟩
  obtain ⟨found, same, -, full⟩ := offered s plating yard.first plate known rfl rfl rfl made
  obtain rfl := Except.ok.inj (offers.symm.trans same)
  have run : r.Equips [plating] yard after :=
    .more (s := s) .nothing ⟨known, rfl, rfl, ⟨_, offers, List.mem_singleton.2 rfl⟩, made⟩
  obtain ⟨b, owned, -, within⟩ := kept yard after "player1" yard.first run rfl (by decide)
  obtain ⟨room, often⟩ := within freighter List.mem_cons_self
  exact ⟨counts, valid, offers, full courier (by decide) (by decide), run, b, owned,
    room (by decide), often plating known (by decide)⟩

end DroneTactics
