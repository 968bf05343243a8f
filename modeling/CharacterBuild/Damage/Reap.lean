import CharacterBuild.Stats.Aggregate

/-! Damage over time, and reaps, which deal some seconds of it at once and then recover. -/

namespace CharacterBuild.Damage

structure OverTime (α : Type) where
  dps : α
  duration : α
deriving DecidableEq

structure Reap (α : Type) where
  dps : α
  recoveryBonus : α
  durationBonus : α
deriving DecidableEq

namespace Reap

variable {α : Type} [Number α]

def sources (p : Pool α) : List (α × α) :=
  (p.matching .reap []).filterMap fun m => match m.effect with
    | .reap cooldown => some (p.effectiveValue m, cooldown)
    | _ => none

/-- No reap takes more seconds than the damage lasts; none where the duration has no place above zero. -/
def sourceDps? (o : OverTime α) (durationFactor recovery : α) (source : α × α) : Option α := do
  let reaped ← Number.clamp? (source.1 * durationFactor) 0 o.duration
  some (o.dps * reaped * recovery / source.2)

def of? (o : OverTime α) (p : Pool α) : Option (Option (Reap α)) :=
  match sources p with
  | [] => some none
  | ss => do
    let recoveryBonus := (p.resolveGlobal .reapRecovery).increase
    let durationBonus := (p.resolveGlobal .reapDuration).increase
    let recovery := Number.max (1 + recoveryBonus) 0
    let dps ← (ss.filter fun s => decide ((0 : α) < s.2)).mapM (sourceDps? o (1 + durationBonus) recovery)
    some (some ⟨sumOf dps, recoveryBonus * 100, durationBonus * 100⟩)

end Reap
end CharacterBuild.Damage
