import CharacterBuild.Stats.Aggregate

namespace CharacterBuild.Damage

variable {α : Type} [Number α]

def critChance (rating multiplier ratingPerFullChance : α) : α :=
  Number.clampUnit (rating * multiplier / ratingPerFullChance)

def critDamage (base : α) (t : Total α) : α :=
  (base + t.additive) * t.more

def critFactor (chance damage : α) : α :=
  1 + chance * (damage - 1)

def attributePoints (p : Pool α) (a : Attribute) : α :=
  p.sum (.attributePoints a) [] * (p.resolveGlobal (.attributePercent a)).multiplier

def attributeMultiplier (p : Pool α) (attributes : List Attribute) (perPoint : α) : α :=
  1 + perPoint * sumOf (attributes.map (attributePoints p))

end CharacterBuild.Damage
