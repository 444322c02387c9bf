import DroneTactics.Board.Stats

/-!
Stat models given by rules. A rule names the drones it is for and what it changes;
the rules of a list are applied in order to the drone's own values.
-/

namespace DroneTactics

inductive Stat where
  | attack
  | speed
  | hull
  | shields
  deriving DecidableEq, Repr

def Stat.ofName? : String → Option Stat
  | "attack" => some .attack
  | "speed" => some .speed
  | "hull" => some .hull
  | "shields" => some .shields
  | _ => none

def StatSheet.modify (sheet : StatSheet) (stat : Stat) (f : Option Int → Option Int) : StatSheet :=
  match stat with
  | .attack => { sheet with attack := f sheet.attack }
  | .speed => { sheet with speed := f sheet.speed }
  | .hull => { sheet with hull := f sheet.hull }
  | .shields => { sheet with shields := f sheet.shields }

/-- A modifier. Selectors that are absent match everything. -/
structure StatRule where
  drone : Option String := none
  lane : Option LaneId := none
  owner : Option PlayerId := none
  /-- Numbers to replace; an absent one is left open from then on. -/
  overwrite : List (Stat × Option Int) := []
  /-- Amounts to add; what is left open stays open. -/
  increase : List (Stat × Int) := []
  keywords : Option (List String) := none
  extraKeywords : List String := []

namespace StatRule

def applies (rule : StatRule) (d : Drone) (lane : LaneId) (owner : PlayerId) : Bool :=
  rule.drone.all (· = d.id) && rule.lane.all (· = lane) && rule.owner.all (· = owner)

/-- The sheet after a rule: replace, then add, then change the keywords. -/
def apply (rule : StatRule) (sheet : StatSheet) : StatSheet :=
  let sheet := rule.overwrite.foldl (fun sh (stat, n) => sh.modify stat fun _ => n) sheet
  let sheet := rule.increase.foldl (fun sh (stat, n) => sh.modify stat (·.map (· + n))) sheet
  { sheet with keywords := rule.keywords.getD sheet.keywords ++ rule.extraKeywords }

end StatRule

def StatModel.ofRules (rules : List StatRule) : StatModel := fun d lane setting =>
  (rules.filter fun rule => rule.applies d lane setting.owner).foldl
    (fun sheet rule => rule.apply sheet) d.baseStats

end DroneTactics
