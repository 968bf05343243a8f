import CharacterBuild.Damage.Summary
import CharacterBuild.Pool.Source
import CharacterBuild.Stats.Resistance

namespace CharacterBuild.Damage

structure Offense (α : Type) where
  skills : List (String × Summary α)
  defenses : Defenses α

namespace Offense

variable {α : Type}

def put (name : String) (s : Summary α) : List (String × Summary α) → List (String × Summary α)
  | [] => [(name, s)]
  | e :: es =>
    if name < e.1 then (name, s) :: e :: es
    else if name = e.1 then (name, s) :: es
    else e :: put name s es

variable [Number α]

def weapon? (l : Loadout α) : Option (Weapon α) :=
  l.gearIn? .mainHand >>= (·.weapon)

def summary? (d : GameData α) (c : Configuration) (pool : List (Modifier α)) (w : Option (Weapon α))
    (u : SkillUse) : Option (Option (Summary α)) :=
  match d.skill? u.name with
  | none => some none
  | some s => some <$> Summary.of? s ⟨Loadout.skillPool pool d.templates u, c⟩ w d.constants

def addSkill? (d : GameData α) (c : Configuration) (pool : List (Modifier α)) (w : Option (Weapon α))
    (es : List (String × Summary α)) (u : SkillUse) : Option (List (String × Summary α)) := do
  match ← summary? d c pool w u with
  | none => some es
  | some s => some (put u.name s es)

def of? (l : Loadout α) (c : Configuration) (d : GameData α) : Option (Offense α) := do
  let pool := l.pool c d.templates
  let skills ← l.enabledActive.foldlM (addSkill? d c pool (weapon? l)) []
  some ⟨skills, .ofPool ⟨pool, c⟩ d.constants.baseMaxResistance⟩

end Offense
end CharacterBuild.Damage
