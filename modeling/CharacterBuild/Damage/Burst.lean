import CharacterBuild.Damage.Hit

namespace CharacterBuild.Damage

structure Overload (α : Type) where
  share : α
  dps : α
deriving DecidableEq

structure Burst (α : Type) where
  maxCharges : α
  chargesPerSecond : α
  releasesPerSecond : α
  multiplier : α
  dps : α
  overload : Option (Overload α)
deriving DecidableEq

namespace Burst

variable {α : Type} [Number α]

/-- Only whole charges count, and no release is faster than the spell is cast. -/
def of? (hit : Hit α) (p : Pool α) (c : Constants α) : Option (Burst α) :=
  let maxCharges := Number.floor (p.sum .maxSpellBurst [])
  if maxCharges < 1 then none
  else
    let chargesPerSecond := c.baseChargeRate * (p.resolveGlobal .spellBurstChargeSpeed).multiplier
    let releasesPerSecond := Number.min (chargesPerSecond / maxCharges) hit.hitsPerSecond
    let multiplier := (p.resolveGlobal .spellBurstDamage).multiplier
    let dps := hit.averageWithCrit * multiplier * maxCharges * releasesPerSecond
    let share := p.sum .ingenuityOverload []
    some ⟨maxCharges, chargesPerSecond, releasesPerSecond, multiplier, dps,
      if 0 < share then some ⟨share, dps * share⟩ else none⟩

def total (b : Burst α) : α :=
  b.dps + b.overload.elim 0 (·.dps)

end Burst
end CharacterBuild.Damage
