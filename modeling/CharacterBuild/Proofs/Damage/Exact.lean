import Mathlib
import CharacterBuild.Proofs.Damage.Branch
import CharacterBuild.Proofs.GameData.Accepted
import CharacterBuild.Proofs.Number.Exact
import CharacterBuild.Proofs.Stats.Total

namespace CharacterBuild.Damage

variable {s : Skill ℚ} {p : Pool ℚ} {w : Option (Weapon ℚ)} {c : Constants ℚ} {d : Delivery} {own : Delivered ℚ}
  {hit : Hit ℚ} {o : OverTime ℚ} {a : Summary ℚ}

/-- Skills and constants are checked when they are read; no weapon strikes less than never. -/
structure Sane (s : Skill ℚ) (w : Option (Weapon ℚ)) (c : Constants ℚ) : Prop where
  skill : s.fault? = none
  constants : c.fault? = none
  weapon : ∀ v ∈ w, 0 ≤ v.attackSpeed
  unarmed : 0 ≤ c.unarmedSpeed

namespace Sane

lemma added_nonneg (hsane : Sane s w c) : 0 ≤ s.addedEffectiveness :=
  not_lt.mp (Skill.fault?_eq_none_iff.mp hsane.skill).1.1

lemma castTime_pos (hsane : Sane s w c) : 0 < s.castTime :=
  not_le.mp (Skill.fault?_eq_none_iff.mp hsane.skill).2.1

lemma persistent_nonneg (hsane : Sane s w c) {damage : Persistent ℚ} (h : s.persistent = some damage) :
    0 ≤ damage.baseDps ∧ 0 ≤ damage.duration := by
  obtain ⟨hdps, hduration⟩ := (Skill.fault?_eq_none_iff.mp hsane.skill).2.2 damage h
  exact ⟨not_lt.mp hdps, not_lt.mp hduration⟩

lemma fullChance_pos (hsane : Sane s w c) : 0 < c.ratingPerFullChance :=
  not_le.mp (Constants.fault?_eq_none_iff.mp hsane.constants).1

lemma chargeRate_nonneg (hsane : Sane s w c) : 0 ≤ c.baseChargeRate :=
  not_lt.mp (Constants.fault?_eq_none_iff.mp hsane.constants).2

lemma speed_nonneg (hsane : Sane s w c) (h : delivered? s w c d = some own) : 0 ≤ own.speed := by
  cases d with
  | attack =>
    cases w with
    | none =>
      obtain rfl := Option.some.inj h
      exact hsane.unarmed
    | some v =>
      obtain rfl := Option.some.inj h
      exact hsane.weapon v rfl
  | spell =>
    obtain ⟨_, _, rfl⟩ := Option.map_eq_some_iff.mp h
    exact one_div_nonneg.mpr hsane.castTime_pos.le

end Sane

lemma critChance_nonneg (rating m full : ℚ) : 0 ≤ critChance rating m full := by
  rw [critChance, Number.clampUnit_eq]
  exact le_sup_left

namespace Burst

lemma maxCharges_made (hit : Hit ℚ) (p : Pool ℚ) (c : Constants ℚ) :
    (made hit p c).maxCharges = ⌊p.sum .maxSpellBurst []⌋ :=
  rfl

/-- More charges take longer to gather, but it is only the rate of casting that they are ever released at. -/
lemma dps_made (h : 1 ≤ (made hit p c).maxCharges) :
    (made hit p c).dps = hit.averageWithCrit * (p.resolveGlobal .spellBurstDamage).multiplier *
      ((c.baseChargeRate * (p.resolveGlobal .spellBurstChargeSpeed).multiplier) ⊓
        ((made hit p c).maxCharges * hit.hitsPerSecond)) := by
  have hpos : 0 < (made hit p c).maxCharges := zero_lt_one.trans_le h
  have hdps : (made hit p c).dps = hit.averageWithCrit * (p.resolveGlobal .spellBurstDamage).multiplier *
      ((made hit p c).maxCharges * Number.min
        (c.baseChargeRate * (p.resolveGlobal .spellBurstChargeSpeed).multiplier / (made hit p c).maxCharges)
        hit.hitsPerSecond) := mul_assoc _ _ _
  rw [hdps, Number.min_eq, mul_min_of_nonneg _ _ hpos.le, mul_div_cancel₀ _ hpos.ne']

lemma overload_made (h : 0 ≤ p.sum .ingenuityOverload []) :
    (made hit p c).overload.elim 0 (·.dps) = (made hit p c).dps * p.sum .ingenuityOverload [] := by
  change Option.elim (if 0 < p.sum .ingenuityOverload [] then _ else _) _ _ = _
  split
  · rfl
  · next hpos =>
    rw [le_antisymm (not_lt.mp hpos) h, mul_zero]
    rfl

end Burst

namespace Reap

lemma sourceDps_eq (h : 0 ≤ o.duration) (durationFactor recovery : ℚ) (source : ℚ × ℚ) :
    sourceDps o durationFactor recovery source =
      o.dps * (0 ⊔ (source.1 * durationFactor ⊓ o.duration)) * recovery / source.2 := by
  rw [sourceDps]
  exact congrArg (o.dps * · * recovery / source.2) (Number.ite_eq_clamp h)

lemma made_dps (o : OverTime ℚ) (p : Pool ℚ) : (made o p).dps = ((recovering p).map (sourceDps o
    (p.resolveGlobal .reapDuration).multiplier ((p.resolveGlobal .reapRecovery).multiplier ⊔ 0))).sum := by
  have hbonus : ∀ t : Total ℚ, 1 + t.increase = t.multiplier := fun t => add_sub_cancel 1 t.multiplier
  rw [← hbonus (p.resolveGlobal .reapDuration), ← hbonus (p.resolveGlobal .reapRecovery), ← Number.max_eq]
  exact sumOf_eq_sum _

lemma sourceDps_nonneg (hdps : 0 ≤ o.dps) (hduration : 0 ≤ o.duration) {factor recovery : ℚ} {source : ℚ × ℚ}
    (hrecovery : 0 ≤ recovery) (hcooldown : 0 ≤ source.2) : 0 ≤ sourceDps o factor recovery source := by
  rw [sourceDps_eq hduration]
  exact div_nonneg (mul_nonneg (mul_nonneg hdps le_sup_left) hrecovery) hcooldown

lemma made_dps_nonneg (hdps : 0 ≤ o.dps) (hduration : 0 ≤ o.duration) : 0 ≤ (made o p).dps := by
  rw [made_dps]
  refine List.sum_nonneg fun x hx => ?_
  obtain ⟨source, hsource, rfl⟩ := List.mem_map.mp hx
  exact sourceDps_nonneg hdps hduration le_sup_right (mem_recovering.mp hsource).1.le

end Reap

namespace Summary

lemma attributes_eq (s : Skill ℚ) (p : Pool ℚ) (c : Constants ℚ) :
    attributes s p c = 1 + c.damagePerPoint * (s.attributes.map (attributePoints p)).sum := by
  rw [attributes, attributeMultiplier, sumOf_eq_sum]

lemma totalDps_eq (h : of? s p w c = some a) :
    a.totalDps = a.dps .attack + a.dps .spell + (a.dps .burst + a.dps .overload) + a.dps .overTime + a.dps .reap := by
  rw [total_of_of? h]
  split
  · rfl
  · next hburst =>
    have hoverload : ¬ a.populated .overload = true := mt burst_of_overload hburst
    rw [dps_of_not_populated hburst, dps_of_not_populated hoverload, add_zero (0 : ℚ)]

end Summary
end CharacterBuild.Damage
