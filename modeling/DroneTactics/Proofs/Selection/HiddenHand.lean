import DroneTactics.Board.StatRule
import DroneTactics.Proofs.Board.Station
import DroneTactics.Proofs.Selection.Resemblance
import DroneTactics.Proofs.Targeting.Mobility

/-!
The hand of the opponent stays hidden. Hiding every hand but the acting player's changes
nothing that targets depend on, and paying a cost before or after hiding the hands comes to
the same, even if what is paid is a card of the opponent. So whatever the opponent holds, the
rules give the same answers and selections go through the same states.
-/

namespace DroneTactics

/-- What a player sees of a board: all of it, but no hand other than the player's own. -/
def Board.seenBy (player : PlayerId) (b : Board) : Board :=
  if b.player = player then b else { b with hand := [] }

namespace Board

variable {player : PlayerId} {b : Board}

theorem seenBy_own (own : b.player = player) : b.seenBy player = b := if_pos own

@[simp] theorem player_seenBy : (b.seenBy player).player = b.player := by
  unfold seenBy
  split <;> rfl

def dealt (b : Board) (owner : PlayerId) (hand : List HandCard) : Board :=
  if b.player = owner then { b with hand } else b

variable {player other : PlayerId} {b c : Board} {hand : List HandCard}

theorem seenBy_eq_iff_own (own : b.player = player) :
    c.seenBy player = b.seenBy player ↔ c = b := by
  constructor
  · intro looks
    have owner : c.player = b.player := by simpa using congrArg Board.player looks
    rwa [seenBy_own own, seenBy_own (owner.trans own)] at looks
  · rintro rfl
    rfl

theorem seenBy_eq_iff_other (other : b.player ≠ player) :
    c.seenBy player = b.seenBy player ↔ ∃ hand, c = { b with hand } := by
  constructor
  · intro looks
    have owner : c.player = b.player := by simpa using congrArg Board.player looks
    have other' : c.player ≠ player := owner ▸ other
    rw [seenBy, seenBy, if_neg other, if_neg other'] at looks
    have dealt : { c with hand := c.hand } = { b with hand := c.hand } :=
      congrArg (fun seen : Board => { seen with hand := c.hand }) looks
    exact ⟨c.hand, dealt⟩
  · rintro ⟨hand, rfl⟩
    rw [seenBy, seenBy, if_neg other, if_neg other]

/-- Boards of which a player sees the same resemble each other. -/
theorem resembles_of_seenBy (looks : c.seenBy player = b.seenBy player) :
    b.Resembles player c := by
  by_cases own : b.player = player
  · rw [(seenBy_eq_iff_own own).1 looks]
    exact .refl player b
  · obtain ⟨hand, rfl⟩ := (seenBy_eq_iff_other own).1 looks
    exact ⟨rfl, fun _ => rfl, fun mine => absurd mine own, rfl, rfl, rfl⟩

end Board

namespace Battlefield

def seenBy (player : PlayerId) (f : Battlefield) : Battlefield :=
  { f with first := f.first.seenBy player, second := f.second.seenBy player }

/-- A field that looks to a player like another one: at most the hands of others differ. -/
def LooksLike (player : PlayerId) (f g : Battlefield) : Prop := g.seenBy player = f.seenBy player

variable {player owner : PlayerId} {f g : Battlefield} {b : Board}

/-! ### Hiding hands -/

@[simp] theorem boards_seenBy :
    (f.seenBy player).boards = f.boards.map (Board.seenBy player) := rfl

theorem board?_seenBy :
    (f.seenBy player).board? owner = (f.board? owner).map (Board.seenBy player) := by
  have players : (fun b : Board => decide (b.player = owner)) ∘ Board.seenBy player =
      fun b => decide (b.player = owner) := by
    funext b
    simp
  rw [board?, boards_seenBy, List.find?_map, players, board?]

def dealt (f : Battlefield) (owner : PlayerId) (hand : List HandCard) : Battlefield :=
  { f with first := f.first.dealt owner hand, second := f.second.dealt owner hand }

theorem looksLike_iff : f.LooksLike player g ↔
    g.first.seenBy player = f.first.seenBy player ∧
      g.second.seenBy player = f.second.seenBy player ∧ g.lanes = f.lanes := by
  rw [LooksLike, seenBy, seenBy, mk.injEq]

/-- To a player with an opponent, another field looks like this one exactly if it is this one
with some hand for the opponent. -/
theorem looksLike_iff_dealt {other : PlayerId} (distinct : f.first.player ≠ f.second.player)
    (opponent : f.opponent? player = some other) :
    f.LooksLike player g ↔ ∃ hand, g = f.dealt other hand := by
  rw [looksLike_iff]
  unfold opponent? at opponent
  split at opponent
  case isTrue first =>
      obtain rfl := Option.some.inj opponent
      have second : f.second.player ≠ player := first ▸ distinct.symm
      rw [Board.seenBy_eq_iff_own first.symm, Board.seenBy_eq_iff_other second]
      constructor
      · rintro ⟨here, ⟨hand, there⟩, lanes⟩
        refine ⟨hand, ?_⟩
        rw [dealt, Board.dealt, Board.dealt, if_neg distinct, if_pos rfl, ← here, ← there, ← lanes]
      · rintro ⟨hand, rfl⟩
        simp [dealt, Board.dealt, distinct]
  case isFalse =>
      split at opponent
      case isTrue second =>
          obtain rfl := Option.some.inj opponent
          have first : f.first.player ≠ player := second ▸ distinct
          rw [Board.seenBy_eq_iff_other first, Board.seenBy_eq_iff_own second.symm]
          constructor
          · rintro ⟨⟨hand, here⟩, there, lanes⟩
            refine ⟨hand, ?_⟩
            rw [dealt, Board.dealt, Board.dealt, if_pos rfl, if_neg distinct.symm, ← here, ← there,
              ← lanes]
          · rintro ⟨hand, rfl⟩
            simp [dealt, Board.dealt, distinct.symm]
      case isFalse => cases opponent

theorem LooksLike.resembles (alike : f.LooksLike player g) : f.Resembles player g := by
  obtain ⟨first, second, lanes⟩ := looksLike_iff.1 alike
  exact .of_boards lanes (Board.resembles_of_seenBy first) (Board.resembles_of_seenBy second)

/-! ### Paying with hands hidden -/

theorem withBoard_seenBy :
    (f.withBoard b).seenBy player = (f.seenBy player).withBoard (b.seenBy player) := by
  have first : (f.seenBy player).first.player = f.first.player := Board.player_seenBy
  have second : (f.seenBy player).second.player = f.second.player := Board.player_seenBy
  unfold withBoard
  rw [Board.player_seenBy, first, second]
  split
  · rfl
  · split <;> rfl

end Battlefield

theorem Board.discard_seenBy {player : PlayerId} {b : Board} {id : String} :
    (b.discard id).seenBy player = (b.seenBy player).discard id := by
  unfold seenBy discard
  split <;> simp_all

theorem Board.moveDrone_seenBy {player : PlayerId} {b : Board} {id : String} {lane : LaneId} :
    (b.moveDrone id lane).seenBy player = (b.seenBy player).moveDrone id lane := by
  unfold seenBy moveDrone
  split <;> simp_all

/-- Paying and hiding hands can be done in either order. -/
theorem Payment.applyTo_seenBy {player : PlayerId} {f : Battlefield} (p : Payment) :
    (p.applyTo f).seenBy player = p.applyTo (f.seenBy player) := by
  unfold applyTo
  rw [Battlefield.board?_seenBy]
  cases f.board? p.target.owner with
  | none => rfl
  | some b =>
      simp only [Option.map_some]
      split
      · rw [Battlefield.withBoard_seenBy, Board.discard_seenBy]
      · rw [Battlefield.withBoard_seenBy, Board.moveDrone_seenBy]
      · rfl

theorem Battlefield.LooksLike.applyTo {player : PlayerId} {f g : Battlefield}
    (alike : f.LooksLike player g) (p : Payment) :
    (p.applyTo f).LooksLike player (p.applyTo g) := by
  rw [LooksLike, Payment.applyTo_seenBy, alike, Payment.applyTo_seenBy]

/-! ### Hidden hands -/

/-- A stat model that asks for no more of a field than a player sees. -/
def StatModel.Respects (model : StatModel) (player : PlayerId) : Prop :=
  ∀ d lane owner f, model d lane ⟨owner, f.seenBy player⟩ = model d lane ⟨owner, f⟩

theorem StatModel.respects_ofRules (rules : List StatRule) (player : PlayerId) :
    (StatModel.ofRules rules).Respects player := by
  intro d lane owner f
  rfl

theorem Situation.faithful_looksLike {s : Situation} (respects : s.stats.Respects s.acting) :
    s.Faithful (Battlefield.LooksLike s.acting) := by
  have resembles : ∀ f g, f.LooksLike s.acting g → (s.on f).Resembles g := by
    intro f g alike
    refine ⟨alike.resembles, fun d lane owner => ?_⟩
    show s.stats d lane ⟨owner, g⟩ = s.stats d lane ⟨owner, f⟩
    rw [← respects d lane owner g, alike, respects]
  intro f g alike
  exact ⟨resembles f g alike, fun p => resembles _ _ (alike.applyTo p)⟩

/-- Nothing tells boards apart that differ in the hands of others than the acting player. -/
theorem indistinct_of_hidden_hand (r : Referee) (s : Situation) (g : Battlefield)
    (respects : s.stats.Respects s.acting) (alike : s.field.LooksLike s.acting g) :
    s.Indistinct (Battlefield.LooksLike s.acting) r g :=
  (Situation.faithful_looksLike respects).indistinct r alike

def ambush : Battlefield := patrol.field.dealt "player2" [{ id := "card7", cardId := "AMBUSH" }]

/-- The card that the other player holds is not noticed. -/
theorem ambush_goes_unnoticed :
    patrol.field ≠ ambush ∧ patrol.stats.Respects patrol.acting ∧
      patrol.field.LooksLike patrol.acting ambush ∧
      patrol.Indistinct (Battlefield.LooksLike patrol.acting) {} ambush := by
  have respects : patrol.stats.Respects patrol.acting := StatModel.respects_ofRules [] _
  have alike : patrol.field.LooksLike patrol.acting ambush :=
    (Battlefield.looksLike_iff_dealt (by decide) rfl).2 ⟨_, rfl⟩
  exact ⟨by decide, respects, alike, indistinct_of_hidden_hand {} patrol ambush respects alike⟩

end DroneTactics
