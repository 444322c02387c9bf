import DroneTactics.Playability
import DroneTactics.Targeting.Preview
import DroneTactics.Targeting.Referee
import DroneTactics.Targeting.Secondary

/-!
What the answers about targets depend on. Of the boards this is where drones and sections
are found, who controls which lane, and whatever stands or lies on a board; of the hands it
is the acting player's alone. On boards that agree in all of it the answers are the same.
-/

namespace DroneTactics

/-- A board on which a player sees the same as on another one: the same drones in every lane,
and the same hand if it is the player's own. -/
structure Board.Resembles (viewer : PlayerId) (b c : Board) : Prop where
  player : c.player = b.player
  drones : ∀ lane, c.dronesIn lane = b.dronesIn lane
  hand : b.player = viewer → c.hand = b.hand
  sections : c.sections = b.sections
  pool : c.pool = b.pool
  upgrades : c.upgrades = b.upgrades

namespace Board.Resembles

variable {viewer : PlayerId} {b c : Board}

theorem refl (viewer : PlayerId) (b : Board) : b.Resembles viewer b :=
  ⟨rfl, fun _ => rfl, fun _ => rfl, rfl, rfl, rfl⟩

theorem droneCount (same : b.Resembles viewer c) (lane : LaneId) :
    c.droneCount lane = b.droneCount lane := by
  rw [Board.droneCount, same.drones, Board.droneCount]

theorem dronesAlong (same : b.Resembles viewer c) (lanes : List LaneId) :
    c.dronesAlong lanes = b.dronesAlong lanes := by
  simp only [Board.dronesAlong, same.drones]

theorem upgradesOf (same : b.Resembles viewer c) : c.upgradesOf = b.upgradesOf := by
  funext droneType
  rw [Board.upgradesOf, same.upgrades, Board.upgradesOf]

end Board.Resembles

structure Battlefield.Resembles (player : PlayerId) (f g : Battlefield) : Prop where
  lanes : g.lanes = f.lanes
  boards : ∀ owner, Option.Rel (Board.Resembles player) (f.board? owner) (g.board? owner)
  opponent : g.opponent? player = f.opponent? player
  stations : ∀ id, g.station? id = f.station? id
  sections : ∀ id, g.section? id = f.section? id
  control : g.control = f.control
  clears : ∀ (who : PlayerId) lane, g.control.clears (some who) g.first g.second lane =
    f.control.clears (some who) f.first f.second lane

namespace Battlefield.Resembles

variable {player owner : PlayerId} {f g : Battlefield}

theorem board_cases (same : f.Resembles player g) (owner : PlayerId) :
    (f.board? owner = none ∧ g.board? owner = none) ∨
    ∃ b c, f.board? owner = some b ∧ g.board? owner = some c ∧ b.player = owner ∧
      b.Resembles player c := by
  have boards := same.boards owner
  generalize ours : f.board? owner = x, theirs : g.board? owner = y at boards
  cases boards with
  | none => exact .inl ⟨rfl, rfl⟩
  | some looks => exact .inr ⟨_, _, rfl, rfl, by simpa using List.find?_some ours, looks⟩

theorem isSome_board? (same : f.Resembles player g) :
    (g.board? owner).isSome = (f.board? owner).isSome := by
  rcases same.board_cases owner with ⟨ours, theirs⟩ | ⟨b, c, ours, theirs, -⟩
  · rw [ours, theirs]
  · rw [ours, theirs, Option.isSome_some, Option.isSome_some]

theorem any_board? (same : f.Resembles player g) (owner : PlayerId) {P : Board → Bool}
    (blind : ∀ b c : Board, b.Resembles player c → P c = P b) :
    (g.board? owner).any P = (f.board? owner).any P := by
  rcases same.board_cases owner with ⟨ours, theirs⟩ | ⟨b, c, ours, theirs, -, looks⟩
  · rw [ours, theirs]
  · rw [ours, theirs, Option.any_some, Option.any_some, blind b c looks]

theorem playable_eq (same : f.Resembles player g) (d : Definition) (who : PlayerId) :
    d.playable who g = d.playable who f := by
  cases d with
  | card c =>
      have met (condition : PlayCondition) : condition.met who g = condition.met who f := by
        unfold PlayCondition.met
        simp only [same.control, same.lanes, ← same.clears]
      simp only [Definition.playable, Card.playable, met]
  | ability => rfl

theorem neighbours_eq (same : f.Resembles player g) : g.neighbours = f.neighbours := by
  funext lane
  rw [neighbours, same.lanes, neighbours]

/-- A field resembles another one if it does so board by board. -/
theorem of_boards (lanes : g.lanes = f.lanes) (first : f.first.Resembles player g.first)
    (second : f.second.Resembles player g.second) : f.Resembles player g := by
  have control : g.control = f.control := by
    funext lane
    simp only [Battlefield.control, laneControl, leader, lanes, first.droneCount,
      second.droneCount, first.player, second.player]
  refine ⟨lanes, ?_, ?_, ?_, ?_, control, ?_⟩
  · intro owner
    simp only [board?, Battlefield.boards, List.find?_cons, first.player, second.player]
    split
    · exact .some first
    · split
      · exact .some second
      · exact .none
  · simp only [opponent?, first.player, second.player]
  · intro id
    simp only [station?, Battlefield.stations, Battlefield.boards, List.flatMap_cons,
      List.flatMap_nil, lanes, first.dronesAlong, second.dronesAlong, first.player, second.player]
  · intro id
    simp only [section?, Battlefield.boards, List.flatMap_cons, List.flatMap_nil, first.sections,
      second.sections, first.player, second.player]
  · intro who lane
    rw [control, LaneControl.clears, LaneControl.clears, first.player]
    split
    · rw [second.droneCount]
    · rw [first.droneCount]

end Battlefield.Resembles

def Situation.on (s : Situation) (g : Battlefield) : Situation := { s with field := g }

/-- Boards on which everything is as it is in a situation: what the acting player's targets
depend on, and what the stat model says. -/
structure Situation.Resembles (s : Situation) (g : Battlefield) : Prop where
  field : s.field.Resembles s.acting g
  stats : ∀ d lane owner, s.stats d lane ⟨owner, g⟩ = s.stats d lane (s.setting owner)

namespace Situation

variable {s : Situation} {g : Battlefield}

@[simp] theorem field_on : (s.on g).field = g := rfl

@[simp] theorem acting_on : (s.on g).acting = s.acting := rfl

@[simp] theorem definition_on : (s.on g).definition = s.definition := rfl

theorem Resembles.playedAs (same : s.Resembles g) (d : Definition) :
    (s.playedAs d).Resembles g := ⟨same.field, same.stats⟩

/-! ### Boards and lanes -/

theorem opponent?_on (same : s.Resembles g) : (s.on g).opponent? = s.opponent? :=
  same.field.opponent

theorem players_on (same : s.Resembles g) (word : String) :
    (s.on g).players word = s.players word := by
  unfold players
  simp only [acting_on, field_on, opponent?_on same, same.field.isSome_board?]

/-- What is gathered board by board is the same if no more of a board is looked at than the
acting player sees. -/
theorem flatMap_boards_on {α : Type} (same : s.Resembles g) {F : PlayerId × Board → List α}
    (blind : ∀ owner b c, b.Resembles s.acting c → F (owner, c) = F (owner, b)) (word : String) :
    ((s.on g).boards word).flatMap F = (s.boards word).flatMap F := by
  unfold boards
  rw [players_on same]
  -- Player by player the boards look the same.
  induction s.players word with
  | nil => rfl
  | cons owner rest ih =>
      rcases same.field.board_cases owner with ⟨ours, theirs⟩ | ⟨b, c, ours, theirs, -, looks⟩
      · simp only [List.filterMap_cons, field_on, ours, theirs, Option.map_none]
        exact ih
      · simp only [List.filterMap_cons, field_on, ours, theirs, Option.map_some,
          List.flatMap_cons, blind owner b c looks]
        exact congrArg _ ih

theorem onlyKnown_on (same : s.Resembles g) (lane : Option LaneId) :
    (s.on g).onlyKnown lane = s.onlyKnown lane := by
  unfold onlyKnown
  rw [field_on, same.field.lanes]

theorem sourceLane?_on (same : s.Resembles g) : (s.on g).sourceLane? = s.sourceLane? := by
  have source : (s.on g).source = s.source := rfl
  unfold sourceLane?
  simp only [source, field_on, same.field.stations]

theorem lanesOf_on (same : s.Resembles g) (reach : Reach) :
    (s.on g).lanesOf reach = s.lanesOf reach := by
  cases reach with
  | anyLane => exact same.field.lanes
  | allLanes => exact same.field.lanes
  | sameLane => rw [lanesOf, onlyKnown_on same, sourceLane?_on same, lanesOf]
  | adjacentLane =>
      rw [lanesOf, field_on, same.field.neighbours_eq, sourceLane?_on same, lanesOf]
  | costSourceLane => exact onlyKnown_on same _
  | costDestinationLane => exact onlyKnown_on same _

theorem scope_on (same : s.Resembles g) (location : Option String) :
    (s.on g).scope location = s.scope location := by
  unfold scope
  simp only [field_on, same.field.lanes, lanesOf_on same, onlyKnown_on same]

theorem reaches_on (same : s.Resembles g) (location : Option String) (lane : Option LaneId) :
    (s.on g).reaches location lane = s.reaches location lane := by
  unfold reaches
  simp only [scope_on same]

/-! ### Restrictions -/

theorem value?_on (same : s.Resembles g) : (s.on g).value? = s.value? := by
  funext d lane owner name
  have sheet : (s.on g).stats d lane ((s.on g).setting owner) =
      s.stats d lane (s.setting owner) := same.stats d lane owner
  rw [value?, StatModel.value?, sheet, value?, StatModel.value?]

theorem dronePasses_on (same : s.Resembles g) : (s.on g).dronePasses = s.dronePasses := by
  funext d lane owner restrictions reference
  unfold dronePasses
  congr 1
  funext restriction
  cases restriction with
  | tag word => rfl
  | limit l => simp only [droneMeets, keepsLimit, value?_on same]
  | relation r => simp only [droneMeets, keepsRelation, value?_on same]

theorem laneMeets_on (same : s.Resembles g) : (s.on g).laneMeets = s.laneMeets := by
  funext lane owner control restriction
  have some_there := same.field.any_board? owner (P := fun b => 0 < b.droneCount lane)
    fun b c looks => by rw [looks.droneCount]
  have none_there := same.field.any_board? owner (P := fun b => b.droneCount lane = 0)
    fun b c looks => by rw [looks.droneCount]
  cases restriction with
  | tag word =>
      simp only [laneMeets]
      unfold laneHasTag
      simp only [acting_on, field_on, opponent?_on same, some_there, none_there]
      rfl
  | limit => rfl
  | relation => rfl

theorem canMove_on (same : s.Resembles g) : (s.on g).canMove = s.canMove := by
  funext rules d lane owner
  have sheet : (s.on g).stats.keywords d lane ((s.on g).setting owner) =
      s.stats.keywords d lane (s.setting owner) :=
    congrArg StatSheet.keywords (same.stats d lane owner)
  rw [canMove, sheet, canMove]

/-! ### Targets of a rule -/

theorem droneTargets_on (same : s.Resembles g) (rule : Targeting) :
    (s.on g).droneTargets rule = s.droneTargets rule := by
  unfold droneTargets
  rw [scope_on same, dronePasses_on same]
  exact flatMap_boards_on same (fun owner b c looks => by simp only [looks.dronesAlong]) _

theorem laneTargets_on (same : s.Resembles g) (rule : Targeting) :
    (s.on g).laneTargets rule = s.laneTargets rule := by
  unfold laneTargets
  rw [scope_on same, laneMeets_on same, field_on, same.field.control]
  exact flatMap_boards_on same (fun owner b c looks => rfl) _

theorem sectionTargets_on (same : s.Resembles g) (rule : Targeting) :
    (s.on g).sectionTargets rule = s.sectionTargets rule := by
  have shielded : (s.on g).shielded = s.shielded := rfl
  unfold sectionTargets
  simp only [reaches_on same, shielded]
  exact flatMap_boards_on same (fun owner b c looks => by simp only [looks.sections]) _

theorem selfTargets_on (same : s.Resembles g) : (s.on g).selfTargets = s.selfTargets := by
  have source : (s.on g).source = s.source := rfl
  unfold selfTargets
  simp only [source, field_on, acting_on, same.field.stations, same.field.sections]

/-- The only hand that is read is the acting player's. -/
theorem handTargets_on (same : s.Resembles g) (rule : Targeting) :
    (s.on g).handTargets rule = s.handTargets rule := by
  have playing : (s.on g).playing = s.playing := rfl
  unfold handTargets
  rcases same.field.board_cases s.acting with ⟨ours, theirs⟩ | ⟨b, c, ours, theirs, own, looks⟩
  · simp only [field_on, acting_on, ours, theirs]
  · simp only [field_on, acting_on, playing, ours, theirs, looks.hand own]

theorem upgradeTargets_on (same : s.Resembles g) (rule : Targeting) :
    (s.on g).upgradeTargets rule = s.upgradeTargets rule := by
  unfold upgradeTargets
  exact flatMap_boards_on same (fun owner b c looks => by simp only [looks.upgrades]) _

theorem admits_of_resembles {viewer : PlayerId} {b c : Board} (looks : b.Resembles viewer c)
    (rules : Rules) (card : Card) : admits rules card c = admits rules card b := by
  funext type
  rw [admits, looks.upgradesOf, admits]

theorem slotTargets_on (same : s.Resembles g) (rules : Rules) :
    (s.on g).slotTargets rules = s.slotTargets rules := by
  unfold slotTargets slotTargetsOf
  rcases same.field.board_cases s.acting with ⟨ours, theirs⟩ | ⟨b, c, ours, theirs, -, looks⟩
  · simp only [definition_on, field_on, acting_on, ours, theirs]
  · simp only [definition_on, field_on, acting_on, ours, theirs, looks.pool,
      admits_of_resembles looks]

theorem targetsFor_on (same : s.Resembles g) (rules : Rules) (rule : Targeting) (aim : Aim) :
    (s.on g).targetsFor rules rule aim = s.targetsFor rules rule aim := by
  cases aim with
  | drone => rw [targetsFor, droneTargets_on same, targetsFor]
  | lane => rw [targetsFor, laneTargets_on same, targetsFor]
  | shipSection => rw [targetsFor, sectionTargets_on same, targetsFor]
  | self => rw [targetsFor, selfTargets_on same, targetsFor]
  | handCard => rw [targetsFor, handTargets_on same, targetsFor]
  | upgrade => rw [targetsFor, upgradeTargets_on same, targetsFor]
  | droneType => exact slotTargets_on same rules
  | nothing => rfl

/-! ### Second targets and drones that are hit -/

theorem secondaryTargets_on (same : s.Resembles g) (primary : PrimaryChoice)
    (rule : SecondaryTargeting) :
    (s.on g).secondaryTargets primary rule = s.secondaryTargets primary rule := by
  have lanes : (s.on g).secondaryLanes primary rule = s.secondaryLanes primary rule := by
    unfold secondaryLanes secondaryLaneOwner
    simp only [onlyKnown_on same, opponent?_on same, acting_on, field_on,
      same.field.neighbours_eq]
  have drones : (s.on g).secondaryDrones primary rule = s.secondaryDrones primary rule := by
    unfold secondaryDrones
    rw [dronePasses_on same]
    split
    case h_1 => exact flatMap_boards_on same (fun owner b c looks => by simp only [looks.drones]) _
    case h_2 => rfl
  rw [secondaryTargets, lanes, drones, secondaryTargets]

theorem laneHits_on (same : s.Resembles g) (rule : Targeting) (target : Target) :
    (s.on g).laneHits rule target = s.laneHits rule target := by
  unfold laneHits filteredHits
  rw [dronePasses_on same, field_on]
  rcases same.field.board_cases target.owner with ⟨ours, theirs⟩ | ⟨b, c, ours, theirs, -, looks⟩
  · rw [ours, theirs]
  · simp only [ours, theirs, looks.drones]

theorem affectedIds_on (same : s.Resembles g) (d : Definition) (lanes : List Target) :
    (s.on g).affectedIds d lanes = s.affectedIds d lanes := by
  have everywhere (rule : Targeting) : (s.on g).fieldHits rule = s.fieldHits rule := by
    unfold fieldHits
    rw [dronePasses_on same, field_on, same.field.lanes]
    exact flatMap_boards_on same (fun owner b c looks => by simp only [looks.dronesAlong]) _
  have somewhere : (s.on g).laneHits d.targeting = s.laneHits d.targeting := by
    funext target
    exact laneHits_on same _ _
  unfold affectedIds
  simp only [everywhere, somewhere]

end Situation

/-! ### The referee -/

namespace Referee

variable {s : Situation} {g : Battlefield}

theorem ruleTargets_on (same : s.Resembles g) (r : Referee) (rule : Targeting) :
    r.ruleTargets rule (s.on g) = r.ruleTargets rule s := by
  unfold ruleTargets
  simp only [Situation.targetsFor_on same]

theorem targets_on (same : s.Resembles g) (r : Referee) : r.targets (s.on g) = r.targets s := by
  unfold targets
  rw [Situation.definition_on, Situation.slotTargets_on same, ruleTargets_on same]

theorem costTargets_on (same : s.Resembles g) (r : Referee) :
    r.costTargets (s.on g) = r.costTargets s := by
  have able : r.canPayByMoving (s.on g) = r.canPayByMoving s := by
    funext target
    rw [canPayByMoving, Situation.canMove_on same, canPayByMoving]
  unfold costTargets
  simp only [Situation.definition_on, ruleTargets_on same, able]

end Referee

end DroneTactics
