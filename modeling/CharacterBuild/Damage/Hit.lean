import CharacterBuild.Damage.Formula
import CharacterBuild.GameData.Constants
import CharacterBuild.GameData.Skill
import CharacterBuild.Item.Gear

namespace CharacterBuild.Damage

structure Hit (α : Type) where
  baseDamage : α
  averageHit : α
  critChance : α
  critDamage : α
  averageWithCrit : α
  hitsPerSecond : α
  dps : α
deriving DecidableEq

structure Delivered (α : Type) where
  damage : α
  critRating : α
  speed : α

variable {α : Type} [Number α]

/-- An attack goes with the weapon, if there is one; a spell without a damage of its own does not hit. -/
def delivered? (s : Skill α) (w : Option (Weapon α)) (c : Constants α) : Delivery → Option (Delivered α)
  | .attack => match w with
    | some w => some ⟨w.averageDamage * s.weaponEffectiveness, w.critRating, w.attackSpeed⟩
    | none => some ⟨0, c.unarmedRating, c.unarmedSpeed⟩
  | .spell => s.baseDamage.map fun damage => ⟨damage, c.spellRating, 1 / s.castTime⟩

def speedStat : Delivery → Stat
  | .attack => .attackSpeed
  | .spell => .castSpeed

namespace Hit

def of? (s : Skill α) (p : Pool α) (w : Option (Weapon α)) (c : Constants α) (multiplier : α) (d : Delivery) :
    Option (Hit α) := do
  let own ← delivered? s w c d
  let baseDamage := own.damage + p.sum .flatDamage [d.scope] * s.addedEffectiveness
  guard (¬ baseDamage ≤ 0)
  let averageHit := baseDamage * multiplier
  let chance := Damage.critChance (s.baseCritRating.getD own.critRating) (p.resolve .critRating s.scopes).multiplier
    c.ratingPerFullChance
  let damage := Damage.critDamage c.baseCritDamage (p.resolve .critDamage s.scopes)
  let averageWithCrit := averageHit * critFactor chance damage
  let hitsPerSecond := own.speed * (p.resolveGlobal (speedStat d)).multiplier
  some ⟨baseDamage, averageHit, chance, damage, averageWithCrit, hitsPerSecond,
    averageWithCrit * hitsPerSecond⟩

end Hit
end CharacterBuild.Damage
