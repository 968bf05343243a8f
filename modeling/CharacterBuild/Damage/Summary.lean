import CharacterBuild.Damage.Burst
import CharacterBuild.Damage.Reap

namespace CharacterBuild.Damage

structure Summary (α : Type) where
  attack : Option (Hit α)
  spell : Option (Hit α)
  burst : Option (Burst α)
  overTime : Option (OverTime α)
  reap : Option (Reap α)
  totalDps : α
deriving DecidableEq

variable {α : Type} [Number α]

def branchTotal (attack spell : Option (Hit α)) (burst : Option (Burst α)) (overTime : Option (OverTime α))
    (reap : Option (Reap α)) : α :=
  attack.elim 0 (·.dps) + spell.elim 0 (·.dps) + burst.elim 0 (·.total) + overTime.elim 0 (·.dps) +
    reap.elim 0 (·.dps)

namespace Summary

def hits (s : Skill α) (p : Pool α) (w : Option (Weapon α)) (c : Constants α) (multiplier : α) :
    Option (Hit α) × Option (Hit α) × Option (Burst α) :=
  match s.delivery? with
  | none => (none, none, none)
  | some .attack => (Hit.of? s p w c multiplier .attack, none, none)
  | some .spell =>
    let hit := Hit.of? s p w c multiplier .spell
    (none, hit, hit.bind fun h => Burst.of? h p c)

def overTime? (s : Skill α) (p : Pool α) (damage attributes : α) : Option (OverTime α) :=
  s.persistent.map fun d =>
    ⟨d.baseDps * damage * (p.resolve .damageOverTime s.scopes).multiplier * attributes,
      d.duration * (p.resolveGlobal .skillDuration).multiplier⟩

def of? (s : Skill α) (p : Pool α) (w : Option (Weapon α)) (c : Constants α) : Option (Summary α) := do
  let damage := (p.resolve .damage s.scopes).multiplier
  let attributes := attributeMultiplier p s.attributes c.damagePerPoint
  let (attack, spell, burst) := hits s p w c (damage * attributes)
  let overTime := overTime? s p damage attributes
  let reap ← match overTime with
    | some o => Reap.of? o p
    | none => some none
  some ⟨attack, spell, burst, overTime, reap, branchTotal attack spell burst overTime reap⟩

end Summary
end CharacterBuild.Damage
