import Mathlib
import CharacterBuild.Proofs.Damage.Exact

/-! Modifiers that are not negative never lower damage: each branch of a summary, taken over exact arithmetic, grows with the
pool. -/

namespace CharacterBuild.Damage

variable {s : Skill ℚ} {p q : Pool ℚ} {w : Option (Weapon ℚ)} {c : Constants ℚ} {d : Delivery} {own : Delivered ℚ}
  {k k' : ℚ} {hit hit' : Hit ℚ} {o o' : OverTime ℚ}

/-- The skills, weapons and constants for which no bonus is a loss. -/
structure Rewarding (s : Skill ℚ) (w : Option (Weapon ℚ)) (c : Constants ℚ) : Prop extends Sane s w c where
  perPoint : 0 ≤ c.damagePerPoint
  critDamage : 1 ≤ c.baseCritDamage

lemma critChance_le {m m' full : ℚ} (rating : ℚ) (hfull : 0 < full) (hm : 0 ≤ m) (h : m ≤ m') :
    critChance rating m full ≤ critChance rating m' full := by
  rw [critChance, critChance, Number.clampUnit_eq, Number.clampUnit_eq]
  rcases le_total 0 rating with hrating | hrating
  · gcongr
  · -- a negative rating gives no chance, whatever it is multiplied by
    have hnonpos : rating * m / full ≤ 0 :=
      div_nonpos_of_nonpos_of_nonneg (mul_nonpos_of_nonpos_of_nonneg hrating hm) hfull.le
    rw [sup_of_le_left (inf_le_left.trans hnonpos)]
    exact le_sup_left

lemma one_le_critDamage {base : ℚ} {t u : Total ℚ} (hbase : 1 ≤ base) (h : t.AtMost u) : 1 ≤ critDamage base t :=
  one_le_mul_of_one_le_of_one_le (le_add_of_le_of_nonneg hbase h.nonneg) h.one_le

lemma critDamage_le {base : ℚ} {t u : Total ℚ} (hbase : 1 ≤ base) (h : t.AtMost u) :
    critDamage base t ≤ critDamage base u := by
  have hnonneg := h.nonneg
  have hone := h.one_le
  have hadditive := h.additive
  rw [critDamage, critDamage]
  gcongr
  · linarith
  · exact h.more

lemma one_le_critFactor {chance damage : ℚ} (hchance : 0 ≤ chance) (hdamage : 1 ≤ damage) : 1 ≤ critFactor chance damage :=
  le_add_of_nonneg_right (mul_nonneg hchance (sub_nonneg.mpr hdamage))

lemma critFactor_le {chance chance' damage damage' : ℚ} (hchance : 0 ≤ chance) (hdamage : 1 ≤ damage)
    (h : chance ≤ chance') (h' : damage ≤ damage') : critFactor chance damage ≤ critFactor chance' damage' := by
  have hnonneg : 0 ≤ damage - 1 := sub_nonneg.mpr hdamage
  have hle : damage - 1 ≤ damage' - 1 := sub_le_sub_right h' 1
  exact add_le_add_right (mul_le_mul h hle hnonneg (hchance.trans h)) 1

lemma attributePoints_nonneg (h : p.GrowsTo q) (a : Attribute) : 0 ≤ attributePoints p a :=
  mul_nonneg (h.sum_nonneg _ _) (zero_le_one.trans (h.resolve _ _).one_le_multiplier)

lemma attributePoints_le (h : p.GrowsTo q) (a : Attribute) : attributePoints p a ≤ attributePoints q a :=
  mul_le_mul (h.sum_le _ _) (h.resolve _ _).multiplier (zero_le_one.trans (h.resolve _ _).one_le_multiplier)
    (h.self.sum_nonneg _ _)

namespace Summary

lemma one_le_damage (h : p.GrowsTo q) : 1 ≤ damage s p :=
  (h.resolve _ _).one_le_multiplier

lemma damage_le (h : p.GrowsTo q) : damage s p ≤ damage s q :=
  (h.resolve _ _).multiplier

lemma one_le_attributes (hc : 0 ≤ c.damagePerPoint) (h : p.GrowsTo q) : 1 ≤ attributes s p c := by
  rw [attributes_eq]
  refine le_add_of_nonneg_right (mul_nonneg hc (List.sum_nonneg fun x hx => ?_))
  obtain ⟨a, _, rfl⟩ := List.mem_map.mp hx
  exact attributePoints_nonneg h a

lemma attributes_le (hc : 0 ≤ c.damagePerPoint) (h : p.GrowsTo q) : attributes s p c ≤ attributes s q c := by
  rw [attributes_eq, attributes_eq]
  gcongr
  exact List.sum_le_sum fun a _ => attributePoints_le h a

end Summary

structure Hit.AtMost (a b : Hit ℚ) : Prop where
  average_nonneg : 0 ≤ a.averageWithCrit
  average_le : a.averageWithCrit ≤ b.averageWithCrit
  rate_nonneg : 0 ≤ a.hitsPerSecond
  rate_le : a.hitsPerSecond ≤ b.hitsPerSecond
  dps_nonneg : 0 ≤ a.dps
  dps_le : a.dps ≤ b.dps

lemma Hit.baseDamage_le (hskill : Rewarding s w c) (h : p.GrowsTo q) :
    (made s p c k d own).baseDamage ≤ (made s q c k' d own).baseDamage :=
  add_le_add_right (mul_le_mul_of_nonneg_right (h.sum_le .flatDamage [d.scope]) hskill.added_nonneg) _

lemma Hit.made_atMost (hskill : Rewarding s w c) (h : p.GrowsTo q) (hspeed : 0 ≤ own.speed) (hk : 0 ≤ k) (hk' : k ≤ k')
    (hbase : 0 ≤ (made s p c k d own).baseDamage) : (made s p c k d own).AtMost (made s q c k' d own) := by
  have hchance := critChance_nonneg (s.baseCritRating.getD own.critRating) (p.resolve .critRating s.scopes).multiplier
    c.ratingPerFullChance
  have hdamage := one_le_critDamage hskill.critDamage (h.resolve .critDamage s.scopes)
  have hcrit := one_le_critFactor hchance hdamage
  have hcrit' := critFactor_le hchance hdamage
    (critChance_le (s.baseCritRating.getD own.critRating) hskill.fullChance_pos
      (zero_le_one.trans (h.resolve .critRating s.scopes).one_le_multiplier) (h.resolve .critRating s.scopes).multiplier)
    (critDamage_le hskill.critDamage (h.resolve .critDamage s.scopes))
  have hbase' : (made s p c k d own).baseDamage ≤ (made s q c k' d own).baseDamage := baseDamage_le hskill h
  have haverage : 0 ≤ (made s p c k d own).averageWithCrit :=
    mul_nonneg (mul_nonneg hbase hk) (zero_le_one.trans hcrit)
  have haverage' : (made s p c k d own).averageWithCrit ≤ (made s q c k' d own).averageWithCrit :=
    mul_le_mul (mul_le_mul hbase' hk' hk (hbase.trans hbase')) hcrit' (zero_le_one.trans hcrit)
      (mul_nonneg (hbase.trans hbase') (hk.trans hk'))
  have hrate : 0 ≤ (made s p c k d own).hitsPerSecond :=
    mul_nonneg hspeed (zero_le_one.trans (h.resolve _ _).one_le_multiplier)
  have hrate' : (made s p c k d own).hitsPerSecond ≤ (made s q c k' d own).hitsPerSecond :=
    mul_le_mul_of_nonneg_left (h.resolve _ _).multiplier hspeed
  exact ⟨haverage, haverage', hrate, hrate', mul_nonneg haverage hrate,
    mul_le_mul haverage' hrate' hrate (haverage.trans haverage')⟩

structure Burst.AtMost (a b : Burst ℚ) : Prop where
  dps_nonneg : 0 ≤ a.dps
  dps_le : a.dps ≤ b.dps
  overload_nonneg : 0 ≤ a.overload.elim 0 (·.dps)
  overload_le : a.overload.elim 0 (·.dps) ≤ b.overload.elim 0 (·.dps)

namespace Burst

lemma maxCharges_le (h : p.GrowsTo q) : (made hit p c).maxCharges ≤ (made hit' q c).maxCharges := by
  rw [maxCharges_made, maxCharges_made]
  exact_mod_cast Int.floor_mono (h.sum_le _ _)

lemma made_atMost (hskill : Rewarding s w c) (h : p.GrowsTo q) (hhit : hit.AtMost hit')
    (hcharges : 1 ≤ (made hit p c).maxCharges) : (made hit p c).AtMost (made hit' q c) := by
  have hcharges_le : (made hit p c).maxCharges ≤ (made hit' q c).maxCharges := maxCharges_le h
  have hmultiplier := zero_le_one.trans (h.resolve .spellBurstDamage [.global]).one_le_multiplier
  have hgathered : 0 ≤ c.baseChargeRate * (p.resolveGlobal .spellBurstChargeSpeed).multiplier :=
    mul_nonneg hskill.chargeRate_nonneg (zero_le_one.trans (h.resolve _ _).one_le_multiplier)
  have hgathered_le : c.baseChargeRate * (p.resolveGlobal .spellBurstChargeSpeed).multiplier ≤
      c.baseChargeRate * (q.resolveGlobal .spellBurstChargeSpeed).multiplier :=
    mul_le_mul_of_nonneg_left (h.resolve _ _).multiplier hskill.chargeRate_nonneg
  have hcast : 0 ≤ (made hit p c).maxCharges * hit.hitsPerSecond :=
    mul_nonneg (zero_le_one.trans hcharges) hhit.rate_nonneg
  have hcast_le : (made hit p c).maxCharges * hit.hitsPerSecond ≤ (made hit' q c).maxCharges * hit'.hitsPerSecond :=
    mul_le_mul hcharges_le hhit.rate_le hhit.rate_nonneg (zero_le_one.trans (hcharges.trans hcharges_le))
  have hdps : 0 ≤ (made hit p c).dps := by
    rw [dps_made hcharges]
    exact mul_nonneg (mul_nonneg hhit.average_nonneg hmultiplier) (le_inf hgathered hcast)
  have hdps_le : (made hit p c).dps ≤ (made hit' q c).dps := by
    rw [dps_made hcharges, dps_made (hcharges.trans hcharges_le)]
    have haverage := mul_le_mul hhit.average_le (h.resolve .spellBurstDamage [.global]).multiplier hmultiplier
      (hhit.average_nonneg.trans hhit.average_le)
    exact mul_le_mul haverage (inf_le_inf hgathered_le hcast_le) (le_inf hgathered hcast)
      ((mul_nonneg hhit.average_nonneg hmultiplier).trans haverage)
  have hshare := h.sum_nonneg .ingenuityOverload []
  have hshare_le := h.sum_le .ingenuityOverload []
  refine ⟨hdps, hdps_le, ?_, ?_⟩
  · rw [overload_made hshare]
    exact mul_nonneg hdps hshare
  · rw [overload_made hshare, overload_made (hshare.trans hshare_le)]
    exact mul_le_mul hdps_le hshare_le hshare (hdps.trans hdps_le)

end Burst

structure OverTime.AtMost (a b : OverTime ℚ) : Prop where
  dps_nonneg : 0 ≤ a.dps
  dps_le : a.dps ≤ b.dps
  duration_nonneg : 0 ≤ a.duration
  duration_le : a.duration ≤ b.duration

lemma OverTime.AtMost.self (h : o.AtMost o') : o'.AtMost o' :=
  ⟨h.dps_nonneg.trans h.dps_le, le_rfl, h.duration_nonneg.trans h.duration_le, le_rfl⟩

namespace Reap

lemma recovering_sublist (h : p.GrowsTo q) : (recovering p).Sublist (recovering q) := by
  rw [recovering, recovering, sources, sources, h.effectiveValue_eq]
  exact ((h.matching _ _).filterMap _).filter _

lemma nonneg_of_recovering (h : p.GrowsTo q) {source : ℚ × ℚ} (hsource : source ∈ recovering q) :
    0 ≤ source.1 ∧ 0 < source.2 := by
  obtain ⟨hpos, m, hm, _, _, hvalue⟩ := mem_recovering.mp hsource
  exact ⟨hvalue ▸ Pool.effectiveValue_nonneg (h.nonneg m hm), hpos⟩

lemma sourceDps_le (hover : o.AtMost o') {factor factor' recovery recovery' : ℚ} {source : ℚ × ℚ}
    (hsource : 0 ≤ source.1 ∧ 0 < source.2) (hfactor : factor ≤ factor') (hrecovery : 0 ≤ recovery)
    (hrecovery' : recovery ≤ recovery') : sourceDps o factor recovery source ≤ sourceDps o' factor' recovery' source := by
  have hseconds := mul_le_mul_of_nonneg_left hfactor hsource.1
  have hdps := hover.dps_nonneg.trans hover.dps_le
  have hdps_le := hover.dps_le
  have hduration := hover.duration_le
  have hcooldown := hsource.2
  rw [sourceDps_eq hover.duration_nonneg, sourceDps_eq (hover.duration_nonneg.trans hduration)]
  gcongr

lemma made_dps_le (h : p.GrowsTo q) (hover : o.AtMost o') :
    0 ≤ (made o p).dps ∧ (made o p).dps ≤ (made o' q).dps := by
  have hfactor := (h.resolve .reapDuration [.global]).multiplier
  have hrecovery : (p.resolveGlobal .reapRecovery).multiplier ⊔ 0 ≤ (q.resolveGlobal .reapRecovery).multiplier ⊔ 0 :=
    sup_le_sup_right (h.resolve _ _).multiplier 0
  have hsublist := recovering_sublist h
  refine ⟨made_dps_nonneg hover.dps_nonneg hover.duration_nonneg, ?_⟩
  rw [made_dps, made_dps]
  refine (List.sum_le_sum fun source hsource => ?_).trans ((hsublist.map _).sum_le_sum fun x hx => ?_)
  · exact sourceDps_le hover (nonneg_of_recovering h (hsublist.subset hsource)) hfactor le_sup_right hrecovery
  · obtain ⟨source, hsource, rfl⟩ := List.mem_map.mp hx
    exact sourceDps_nonneg hover.self.dps_nonneg hover.self.duration_nonneg le_sup_right (mem_recovering.mp hsource).1.le

end Reap

def Covers {β : Type} (R : β → β → Prop) (x y : Option β) : Prop :=
  ∀ a ∈ x, ∃ b ∈ y, R a b

lemma Covers.ite {β : Type} {R : β → β → Prop} {x y : Option β} {P : Prop} [Decidable P] (h : Covers R x y) :
    Covers R (if P then x else none) (if P then y else none) := by
  split
  · exact h
  · nofun

lemma Covers.elim_le {β : Type} {R : β → β → Prop} {x y : Option β} (h : Covers R x y) (hself : Covers R y y)
    {f g : β → ℚ} (hle : ∀ a b, R a b → f a ≤ g b) (hnonneg : ∀ a b, R a b → 0 ≤ g a) : x.elim 0 f ≤ y.elim 0 g := by
  cases x with
  | some a =>
    obtain ⟨b, rfl, hab⟩ := h a rfl
    exact hle a b hab
  | none =>
    cases y with
    | none => exact le_rfl
    | some b =>
      obtain ⟨b', _, hb⟩ := hself b rfl
      exact hnonneg b b' hb

lemma Hit.covers (hskill : Rewarding s w c) (h : p.GrowsTo q) (hk : 0 ≤ k) (hk' : k ≤ k') :
    Covers Hit.AtMost (of? s p w c k d) (of? s q w c k' d) := by
  intro a ha
  obtain ⟨own, hown, hbase, rfl⟩ := of?_eq_some_iff.mp ha
  rw [not_le] at hbase
  have hbase' : 0 < (made s q c k' d own).baseDamage := hbase.trans_le (baseDamage_le hskill h)
  exact ⟨_, of?_eq_some_iff.mpr ⟨own, hown, hbase'.not_ge, rfl⟩,
    made_atMost hskill h (hskill.speed_nonneg hown) hk hk' hbase.le⟩

lemma Burst.covers (hskill : Rewarding s w c) (h : p.GrowsTo q) (hk : 0 ≤ k) (hk' : k ≤ k') :
    Covers Burst.AtMost ((Hit.of? s p w c k d).bind (Burst.of? · p c)) ((Hit.of? s q w c k' d).bind (Burst.of? · q c)) := by
  intro a ha
  obtain ⟨hit, hhit, ha⟩ := Option.bind_eq_some_iff.mp ha
  obtain ⟨hit', hhit', hbest⟩ := Hit.covers hskill h hk hk' hit hhit
  obtain ⟨hcharges, rfl⟩ := of?_eq_some_iff.mp ha
  rw [not_lt] at hcharges
  have hcharges' : 1 ≤ (made hit' q c).maxCharges := hcharges.trans (maxCharges_le h)
  exact ⟨made hit' q c, Option.bind_eq_some_iff.mpr ⟨hit', hhit', of?_eq_some_iff.mpr ⟨hcharges'.not_gt, rfl⟩⟩,
    made_atMost hskill h hbest hcharges⟩

namespace Summary

lemma overTime_covers (hskill : Rewarding s w c) (h : p.GrowsTo q) :
    Covers OverTime.AtMost (overTime? s p (damage s p) (attributes s p c))
      (overTime? s q (damage s q) (attributes s q c)) := by
  intro a ha
  obtain ⟨own, hown, rfl⟩ := Option.map_eq_some_iff.mp ha
  obtain ⟨hdps, hduration⟩ := hskill.persistent_nonneg hown
  have hdamage := zero_le_one.trans (one_le_damage (s := s) h)
  have hattributes := zero_le_one.trans (one_le_attributes (s := s) hskill.perPoint h)
  have hlasting := h.resolve .skillDuration [.global]
  have htotal := h.resolve .damageOverTime s.scopes
  have hmultiplier := zero_le_one.trans htotal.one_le_multiplier
  have hplain : 0 ≤ own.baseDps * damage s p := mul_nonneg hdps hdamage
  have hplain_le : own.baseDps * damage s p ≤ own.baseDps * damage s q := mul_le_mul_of_nonneg_left (damage_le h) hdps
  have hown_le := mul_le_mul hplain_le htotal.multiplier hmultiplier (hplain.trans hplain_le)
  refine ⟨_, Option.map_eq_some_iff.mpr ⟨own, hown, rfl⟩, ?_, ?_, ?_, ?_⟩
  · exact mul_nonneg (mul_nonneg hplain hmultiplier) hattributes
  · exact mul_le_mul hown_le (attributes_le hskill.perPoint h) hattributes ((mul_nonneg hplain hmultiplier).trans hown_le)
  · exact mul_nonneg hduration (zero_le_one.trans hlasting.one_le_multiplier)
  · exact mul_le_mul_of_nonneg_left hlasting.multiplier hduration

def lasting (s : Skill ℚ) (p : Pool ℚ) (w : Option (Weapon ℚ)) (c : Constants ℚ) : Summary ℚ :=
  made s p w c ((overTime? s p (damage s p) (attributes s p c)).bind fun o =>
    if Reap.sources p = [] then none else some (Reap.made o p))

lemma of?_eq_lasting (h : ∀ o ∈ overTime? s p (damage s p) (attributes s p c), 0 ≤ o.duration) :
    of? s p w c = some (lasting s p w c) := by
  rw [of?_eq, lasting]
  generalize overTime? s p (damage s p) (attributes s p c) = overTime at h ⊢
  cases overTime with
  | none => rfl
  | some o =>
    rw [reap?, Reap.of?_eq, if_pos (.inr (h o rfl))]
    rfl

lemma dps_reap_lasting : (lasting s p w c).dps .reap =
    (overTime? s p (damage s p) (attributes s p c)).elim 0 fun o => (Reap.made o p).dps := by
  change Option.elim (Option.bind _ _) 0 _ = _
  cases overTime? s p (damage s p) (attributes s p c) with
  | none => rfl
  | some o =>
    rw [Option.bind_some, Option.elim_some]
    split
    · next h =>
      rw [Reap.made_dps, Reap.recovering, h]
      rfl
    · rfl

lemma strength_nonneg (hskill : Rewarding s w c) (h : p.GrowsTo q) : 0 ≤ damage s p * attributes s p c :=
  mul_nonneg (zero_le_one.trans (one_le_damage h)) (zero_le_one.trans (one_le_attributes hskill.perPoint h))

lemma strength_le (hskill : Rewarding s w c) (h : p.GrowsTo q) :
    damage s p * attributes s p c ≤ damage s q * attributes s q c :=
  mul_le_mul (damage_le h) (attributes_le hskill.perPoint h) (zero_le_one.trans (one_le_attributes hskill.perPoint h))
    (zero_le_one.trans (one_le_damage h.self))

lemma attack_covers (hskill : Rewarding s w c) (h : p.GrowsTo q) :
    Covers Hit.AtMost (lasting s p w c).attack (lasting s q w c).attack := by
  rw [lasting, lasting, attack_made, attack_made]
  exact (Hit.covers hskill h (strength_nonneg hskill h) (strength_le hskill h)).ite

lemma spell_covers (hskill : Rewarding s w c) (h : p.GrowsTo q) :
    Covers Hit.AtMost (lasting s p w c).spell (lasting s q w c).spell := by
  rw [lasting, lasting, spell_made, spell_made]
  exact (Hit.covers hskill h (strength_nonneg hskill h) (strength_le hskill h)).ite

lemma burst_covers (hskill : Rewarding s w c) (h : p.GrowsTo q) :
    Covers Burst.AtMost (lasting s p w c).burst (lasting s q w c).burst := by
  rw [lasting, lasting, burst_made, burst_made]
  exact (Burst.covers hskill h (strength_nonneg hskill h) (strength_le hskill h)).ite

lemma dps_le (hskill : Rewarding s w c) (h : p.GrowsTo q) (branch : Branch) :
    (lasting s p w c).dps branch ≤ (lasting s q w c).dps branch := by
  have hself := h.self
  cases branch with
  | attack =>
    exact (attack_covers hskill h).elim_le (attack_covers hskill hself) (fun _ _ hab => hab.dps_le)
      fun _ _ hab => hab.dps_nonneg
  | spell =>
    exact (spell_covers hskill h).elim_le (spell_covers hskill hself) (fun _ _ hab => hab.dps_le)
      fun _ _ hab => hab.dps_nonneg
  | burst =>
    exact (burst_covers hskill h).elim_le (burst_covers hskill hself) (fun _ _ hab => hab.dps_le)
      fun _ _ hab => hab.dps_nonneg
  | overload =>
    exact (burst_covers hskill h).elim_le (burst_covers hskill hself) (fun _ _ hab => hab.overload_le)
      fun _ _ hab => hab.overload_nonneg
  | overTime =>
    exact (overTime_covers hskill h).elim_le (overTime_covers hskill hself) (fun _ _ hab => hab.dps_le)
      fun _ _ hab => hab.dps_nonneg
  | reap =>
    rw [dps_reap_lasting, dps_reap_lasting]
    exact (overTime_covers hskill h).elim_le (overTime_covers hskill hself)
      (fun _ _ hab => (Reap.made_dps_le h hab).2) fun _ _ hab => (Reap.made_dps_le hself hab).1

lemma of?_of_growsTo (hskill : Rewarding s w c) (h : p.GrowsTo q) : of? s p w c = some (lasting s p w c) := by
  refine of?_eq_lasting fun o ho => ?_
  obtain ⟨_, _, hover⟩ := overTime_covers hskill h o ho
  exact hover.duration_nonneg

end Summary

/-- The second list has the modifiers of the first in their order and others at any places, such as one more anywhere. -/
theorem bonus_never_lowers_dps {A B : List (Modifier ℚ)} (hskill : Rewarding s w c) (hsublist : A.Sublist B)
    (hnonneg : ∀ m ∈ B, 0 ≤ m.value) (configuration : Configuration) :
    ∃ a b, Summary.of? s ⟨A, configuration⟩ w c = some a ∧ Summary.of? s ⟨B, configuration⟩ w c = some b ∧
      (∀ branch, a.dps branch ≤ b.dps branch) ∧ a.totalDps ≤ b.totalDps := by
  have h : Pool.GrowsTo ⟨A, configuration⟩ ⟨B, configuration⟩ := ⟨hsublist, rfl, hnonneg⟩
  have hdps := Summary.dps_le hskill h
  have hA := Summary.of?_of_growsTo hskill h
  have hB := Summary.of?_of_growsTo hskill h.self
  refine ⟨_, _, hA, hB, hdps, ?_⟩
  rw [Summary.totalDps_eq hA, Summary.totalDps_eq hB]
  have hattack := hdps .attack
  have hspell := hdps .spell
  have hburst := hdps .burst
  have hoverload := hdps .overload
  have hoverTime := hdps .overTime
  have hreap := hdps .reap
  linarith

def scorch : Skill ℚ where
  name := "Scorch"
  tags := [.spell, .fire, .persistent]
  attributes := [.intelligence]
  addedEffectiveness := 1
  weaponEffectiveness := 1
  baseDamage := some 100
  castTime := 1 / 2
  baseCritRating := none
  persistent := some ⟨50, 3⟩

def scorching : List (Modifier ℚ) :=
  [{ effect := .maxSpellBurst, value := 1, additional := true }, .flatDamage .cold 3 5 .spell,
    { effect := .attributePoints .intelligence, value := 40, additional := true }]

def scorchingMore : List (Modifier ℚ) :=
  [{ effect := .maxSpellBurst, value := 1, additional := true },
    { effect := .maxSpellBurst, value := 1, additional := true }, .flatDamage .cold 3 5 .spell,
    { effect := .reap 2, value := 1 / 2, additional := true },
    { effect := .attributePoints .intelligence, value := 40, additional := true },
    { effect := .critDamage, value := 1 / 4, scope := .spell }]

theorem scorch_gains_from_charge : Rewarding scorch none .default ∧ scorching.Sublist scorchingMore ∧
    (∀ m ∈ scorchingMore, 0 ≤ m.value) ∧
    ∃ a b, Summary.of? scorch ⟨scorching, .empty⟩ none .default = some a ∧
      Summary.of? scorch ⟨scorchingMore, .empty⟩ none .default = some b ∧
      (∀ branch, a.dps branch ≤ b.dps branch) ∧ a.totalDps ≤ b.totalDps := by
  have hskill : Rewarding scorch none .default :=
    ⟨⟨by decide +kernel, by decide +kernel, nofun, by decide +kernel⟩, by decide +kernel, by decide +kernel⟩
  have hsublist : scorching.Sublist scorchingMore := by decide +kernel
  have hnonneg : ∀ m ∈ scorchingMore, 0 ≤ m.value := by decide +kernel
  exact ⟨hskill, hsublist, hnonneg, bonus_never_lowers_dps hskill hsublist hnonneg .empty⟩

end CharacterBuild.Damage
