import Mathlib
import CharacterBuild.Proofs.Build.CleanUp
import CharacterBuild.Proofs.Damage.Gain
import CharacterBuild.Proofs.Damage.Isolation

/-! Penalties: nothing keeps the multiplier that modifiers resolve to above zero, so whether the figures of an evaluation
are rates, durations and damages at all depends on the signs of the multipliers. -/

namespace CharacterBuild.Damage

variable {s : Skill ℚ} {p : Pool ℚ} {w : Option (Weapon ℚ)} {c : Constants ℚ} {d : Delivery} {own : Delivered ℚ} {k : ℚ}
  {hit : Hit ℚ} {o : OverTime ℚ} {a : Summary ℚ}

lemma mul_nonneg_iff_imp {x y : ℚ} (hx : 0 ≤ x) : 0 ≤ x * y ↔ (0 < x → 0 ≤ y) := by
  constructor
  · exact fun h hpos => (mul_nonneg_iff_of_pos_left hpos).mp h
  · intro h
    rcases hx.eq_or_lt with rfl | hpos
    · rw [zero_mul]
    · exact mul_nonneg hx (h hpos)

lemma forall_delivery_iff {x : Option Delivery} {P : Delivery → Prop} :
    (∀ d ∈ x, P d) ↔ (x = some .attack → P .attack) ∧ (x = some .spell → P .spell) := by
  refine ⟨fun h => ⟨h _, h _⟩, fun ⟨hattack, hspell⟩ d hd => ?_⟩
  cases d with
  | attack => exact hattack hd
  | spell => exact hspell hd

lemma forall_mem_ite_iff {β : Type} {x : Option β} {P : β → Prop} {Q : Prop} [Decidable Q] :
    (∀ b ∈ if Q then x else none, P b) ↔ (Q → ∀ b ∈ x, P b) := by
  split <;> simp_all

lemma elim_nonneg_iff {β : Type} {x : Option β} {f : β → ℚ} : 0 ≤ x.elim 0 f ↔ ∀ b ∈ x, 0 ≤ f b := by
  cases x <;> simp

namespace Hit

/-- A hit that moves at all is not slowed below a standstill, and one that is made is not turned into its opposite. -/
def Bearable (s : Skill ℚ) (p : Pool ℚ) (w : Option (Weapon ℚ)) (c : Constants ℚ) (k : ℚ) (d : Delivery) : Prop :=
  ∀ own ∈ delivered? s w c d, ∀ hit ∈ of? s p w c k d,
    (0 < own.speed → 0 ≤ (p.resolveGlobal (speedStat d)).multiplier) ∧
      (0 < hit.hitsPerSecond → 0 ≤ k * critFactor hit.critChance hit.critDamage)

instance : Decidable (Bearable s p w c k d) :=
  inferInstanceAs (Decidable (∀ own ∈ delivered? s w c d, ∀ hit ∈ of? s p w c k d, _ ∧ _))

lemma average_of_mem (h : hit ∈ of? s p w c k d) :
    0 < hit.baseDamage ∧ hit.averageWithCrit = hit.baseDamage * (k * critFactor hit.critChance hit.critDamage) := by
  obtain ⟨_, _, hbase, rfl⟩ := of?_eq_some_iff.mp h
  exact ⟨not_le.mp hbase, mul_assoc _ _ _⟩

lemma rate_nonneg_iff (hsane : Sane s w c) (hown : delivered? s w c d = some own) (h : hit ∈ of? s p w c k d) :
    0 ≤ hit.hitsPerSecond ↔ (0 < own.speed → 0 ≤ (p.resolveGlobal (speedStat d)).multiplier) := by
  obtain ⟨own', hown', _, rfl⟩ := of?_eq_some_iff.mp h
  obtain rfl := Option.some.inj (hown.symm.trans hown')
  exact mul_nonneg_iff_imp (hsane.speed_nonneg hown)

lemma dps_of_mem (h : hit ∈ of? s p w c k d) : hit.dps = hit.hitsPerSecond * hit.averageWithCrit := by
  obtain ⟨_, _, _, rfl⟩ := of?_eq_some_iff.mp h
  exact mul_comm _ _

lemma bearable_iff (hsane : Sane s w c) :
    Bearable s p w c k d ↔ ∀ hit ∈ of? s p w c k d, 0 ≤ hit.hitsPerSecond ∧ 0 ≤ hit.dps := by
  cases hown : delivered? s w c d with
  | none => simp [Bearable, of?, hown]
  | some own =>
    rw [Bearable, hown]
    simp only [Option.mem_def, Option.some.injEq, forall_eq']
    refine forall₂_congr fun hit hhit => ?_
    rw [← rate_nonneg_iff hsane hown hhit]
    -- at a rate of zero the sign of the damage does not show
    refine and_congr_right fun hrate => ?_
    obtain ⟨hbase, haverage⟩ := average_of_mem hhit
    rw [dps_of_mem hhit, haverage, mul_nonneg_iff_imp hrate, mul_nonneg_iff_of_pos_left hbase]

end Hit

namespace Burst

def Bearable (p : Pool ℚ) (c : Constants ℚ) (k : ℚ) (hit : Hit ℚ) : Prop :=
  ∀ b ∈ of? hit p c,
    (0 < c.baseChargeRate → 0 ≤ (p.resolveGlobal .spellBurstChargeSpeed).multiplier) ∧
      (0 < b.releasesPerSecond →
        0 ≤ k * critFactor hit.critChance hit.critDamage * (p.resolveGlobal .spellBurstDamage).multiplier)

instance : Decidable (Bearable p c k hit) :=
  inferInstanceAs (Decidable (∀ b ∈ of? hit p c, _ ∧ _))

lemma overload_nonneg (h : 0 ≤ (made hit p c).dps) : 0 ≤ (made hit p c).overload.elim 0 (·.dps) := by
  refine elim_nonneg_iff.mpr fun overload hoverload => ?_
  obtain ⟨hshare, hoverload⟩ := Option.ite_none_right_eq_some.mp hoverload
  obtain rfl := Option.some.inj hoverload
  exact mul_nonneg h hshare.le

lemma releases_nonneg_iff (hsane : Sane s w c) (hrate : 0 ≤ hit.hitsPerSecond) (hcharges : 1 ≤ (made hit p c).maxCharges) :
    0 ≤ (made hit p c).releasesPerSecond ↔
      (0 < c.baseChargeRate → 0 ≤ (p.resolveGlobal .spellBurstChargeSpeed).multiplier) := by
  change 0 ≤ Number.min (c.baseChargeRate * (p.resolveGlobal .spellBurstChargeSpeed).multiplier / (made hit p c).maxCharges)
    hit.hitsPerSecond ↔ _
  rw [Number.min_eq, le_inf_iff, and_iff_left hrate, le_div_iff₀ (zero_lt_one.trans_le hcharges), zero_mul,
    mul_nonneg_iff_imp hsane.chargeRate_nonneg]

lemma bearable_iff (hsane : Sane s w c) (hhit : hit ∈ Hit.of? s p w c k d) (hrate : 0 ≤ hit.hitsPerSecond) :
    Bearable p c k hit ↔ ∀ b ∈ of? hit p c, 0 ≤ b.releasesPerSecond ∧ 0 ≤ b.dps ∧ 0 ≤ b.overload.elim 0 (·.dps) := by
  obtain ⟨hbase, haverage⟩ := Hit.average_of_mem hhit
  refine forall₂_congr fun b hb => ?_
  obtain ⟨hcharges, rfl⟩ := of?_eq_some_iff.mp hb
  rw [not_lt] at hcharges
  rw [← releases_nonneg_iff hsane hrate hcharges, and_iff_left_of_imp overload_nonneg]
  refine and_congr_right fun hreleases => ?_
  have hdps : (made hit p c).dps = (made hit p c).releasesPerSecond * (hit.baseDamage * (made hit p c).maxCharges *
      (k * critFactor hit.critChance hit.critDamage * (p.resolveGlobal .spellBurstDamage).multiplier)) := by
    change hit.averageWithCrit * (p.resolveGlobal .spellBurstDamage).multiplier * (made hit p c).maxCharges *
      (made hit p c).releasesPerSecond = _
    rw [haverage]
    ring
  rw [hdps, mul_nonneg_iff_imp hreleases, mul_nonneg_iff_of_pos_left (mul_pos hbase (zero_lt_one.trans_le hcharges))]

end Burst

namespace OverTime

def Bearable (s : Skill ℚ) (p : Pool ℚ) (c : Constants ℚ) : Prop :=
  ∀ own ∈ s.persistent,
    (0 < own.baseDps →
      0 ≤ Summary.damage s p * (p.resolve .damageOverTime s.scopes).multiplier * Summary.attributes s p c) ∧
      (0 < own.duration → 0 ≤ (p.resolveGlobal .skillDuration).multiplier)

instance : Decidable (Bearable s p c) :=
  inferInstanceAs (Decidable (∀ own ∈ s.persistent, _ ∧ _))

lemma bearable_iff (hsane : Sane s w c) : Bearable s p c ↔
    ∀ o ∈ Summary.overTime? s p (Summary.damage s p) (Summary.attributes s p c), 0 ≤ o.dps ∧ 0 ≤ o.duration := by
  rw [Bearable, Summary.overTime?]
  cases hown : s.persistent with
  | none => simp
  | some own =>
    obtain ⟨hdps, hduration⟩ := hsane.persistent_nonneg hown
    simp only [Option.map_some, Option.mem_def, Option.some.injEq, forall_eq']
    rw [← mul_nonneg_iff_imp hdps, ← mul_nonneg_iff_imp hduration, ← mul_assoc, ← mul_assoc]

end OverTime

namespace Summary

structure NonNegative (a : Summary ℚ) : Prop where
  attackRate : ∀ hit ∈ a.attack, 0 ≤ hit.hitsPerSecond
  spellRate : ∀ hit ∈ a.spell, 0 ≤ hit.hitsPerSecond
  releaseRate : ∀ b ∈ a.burst, 0 ≤ b.releasesPerSecond
  duration : ∀ o ∈ a.overTime, 0 ≤ o.duration
  dps : ∀ branch, 0 ≤ a.dps branch
  total : 0 ≤ a.totalDps

/-- The signs that the multipliers of a skill need, each where it counts. -/
structure Bearable (s : Skill ℚ) (p : Pool ℚ) (w : Option (Weapon ℚ)) (c : Constants ℚ) : Prop where
  hit : ∀ d ∈ s.delivery?, Hit.Bearable s p w c (damage s p * attributes s p c) d
  burst : s.delivery? = some .spell →
    ∀ hit ∈ Hit.of? s p w c (damage s p * attributes s p c) .spell, Burst.Bearable p c (damage s p * attributes s p c) hit
  overTime : OverTime.Bearable s p c

lemma bearable_iff_and : Bearable s p w c ↔
    ((∀ d ∈ s.delivery?, Hit.Bearable s p w c (damage s p * attributes s p c) d) ∧
      (s.delivery? = some .spell →
        ∀ hit ∈ Hit.of? s p w c (damage s p * attributes s p c) .spell,
          Burst.Bearable p c (damage s p * attributes s p c) hit)) ∧ OverTime.Bearable s p c :=
  ⟨fun h => ⟨⟨h.hit, h.burst⟩, h.overTime⟩, fun h => ⟨h.1.1, h.1.2, h.2⟩⟩

instance : Decidable (Bearable s p w c) :=
  decidable_of_iff' _ bearable_iff_and

lemma reap_nonneg (h : of? s p w c = some a) (hover : ∀ o ∈ a.overTime, 0 ≤ o.dps ∧ 0 ≤ o.duration) :
    0 ≤ a.dps .reap := by
  obtain ⟨reap, hreap, rfl⟩ := exists_of_of? h
  refine elim_nonneg_iff.mpr fun r hr => ?_
  obtain rfl : reap = some r := hr
  cases ho : overTime? s p (damage s p) (attributes s p c) with
  | none =>
    rw [ho] at hreap
    cases hreap
  | some o =>
    obtain ⟨hdps, hduration⟩ := hover o ho
    rw [ho, reap?, Reap.of?_eq, if_pos (.inr hduration)] at hreap
    obtain ⟨_, hr⟩ := Option.ite_none_left_eq_some.mp (Option.some.inj hreap)
    obtain rfl := Option.some.inj hr
    exact Reap.made_dps_nonneg hdps hduration

lemma nonNegative_iff_branches (h : of? s p w c = some a) : a.NonNegative ↔
    (∀ hit ∈ a.attack, 0 ≤ hit.hitsPerSecond ∧ 0 ≤ hit.dps) ∧ (∀ hit ∈ a.spell, 0 ≤ hit.hitsPerSecond ∧ 0 ≤ hit.dps) ∧
      (∀ b ∈ a.burst, 0 ≤ b.releasesPerSecond ∧ 0 ≤ b.dps ∧ 0 ≤ b.overload.elim 0 (·.dps)) ∧
      ∀ o ∈ a.overTime, 0 ≤ o.dps ∧ 0 ≤ o.duration := by
  constructor
  · intro hall
    exact ⟨fun hit hhit => ⟨hall.attackRate hit hhit, elim_nonneg_iff.mp (hall.dps .attack) hit hhit⟩,
      fun hit hhit => ⟨hall.spellRate hit hhit, elim_nonneg_iff.mp (hall.dps .spell) hit hhit⟩,
      fun b hb => ⟨hall.releaseRate b hb, elim_nonneg_iff.mp (hall.dps .burst) b hb,
        elim_nonneg_iff.mp (hall.dps .overload) b hb⟩,
      fun o ho => ⟨elim_nonneg_iff.mp (hall.dps .overTime) o ho, hall.duration o ho⟩⟩
  · rintro ⟨hattack, hspell, hburst, hover⟩
    have hdps : ∀ branch, 0 ≤ a.dps branch := by
      intro branch
      cases branch with
      | attack => exact elim_nonneg_iff.mpr fun hit hhit => (hattack hit hhit).2
      | spell => exact elim_nonneg_iff.mpr fun hit hhit => (hspell hit hhit).2
      | burst => exact elim_nonneg_iff.mpr fun b hb => (hburst b hb).2.1
      | overload => exact elim_nonneg_iff.mpr fun b hb => (hburst b hb).2.2
      | overTime => exact elim_nonneg_iff.mpr fun o ho => (hover o ho).1
      | reap => exact reap_nonneg h hover
    refine ⟨fun hit hhit => (hattack hit hhit).1, fun hit hhit => (hspell hit hhit).1, fun b hb => (hburst b hb).1,
      fun o ho => (hover o ho).2, hdps, ?_⟩
    rw [totalDps_eq h]
    have hbursts := add_nonneg (hdps .burst) (hdps .overload)
    exact add_nonneg (add_nonneg (add_nonneg (add_nonneg (hdps _) (hdps _)) hbursts) (hdps _)) (hdps _)

lemma nonNegative_iff (hsane : Sane s w c) (h : of? s p w c = some a) : a.NonNegative ↔ Bearable s p w c := by
  rw [nonNegative_iff_branches h, bearable_iff_and, OverTime.bearable_iff hsane, ← and_assoc, ← and_assoc]
  obtain ⟨reap, _, rfl⟩ := exists_of_of? h
  refine and_congr_left' ?_
  rw [attack_made, spell_made, burst_made, forall_mem_ite_iff, forall_mem_ite_iff, forall_mem_ite_iff, forall_delivery_iff,
    Hit.bearable_iff hsane, Hit.bearable_iff hsane]
  -- releases come no faster than casts, so their sign is read only once that of the casts is settled
  refine and_congr_right fun ⟨_, hspell⟩ => imp_congr_right fun hdelivery => ?_
  constructor
  · intro hburst hit hhit
    exact (Burst.bearable_iff hsane hhit (hspell hdelivery hit hhit).1).mpr fun b hb =>
      hburst b (Option.bind_eq_some_iff.mpr ⟨hit, hhit, hb⟩)
  · intro hburst b hb
    obtain ⟨hit, hhit, hb⟩ := Option.bind_eq_some_iff.mp hb
    exact (Burst.bearable_iff hsane hhit (hspell hdelivery hit hhit).1).mp (hburst hit hhit) b hb

theorem bearable_of_nonneg (hskill : Rewarding s w c) (h : ∀ m ∈ p.modifiers, 0 ≤ m.value) : Bearable s p w c := by
  have hgrows : p.GrowsTo p := ⟨.refl _, rfl, h⟩
  have hmultiplier : ∀ stat scopes, 0 ≤ (p.resolve stat scopes).multiplier :=
    fun stat scopes => zero_le_one.trans (hgrows.resolve stat scopes).one_le_multiplier
  have hstrength := strength_nonneg hskill hgrows
  have hcrit : ∀ {d hit}, hit ∈ Hit.of? s p w c (damage s p * attributes s p c) d →
      0 ≤ critFactor hit.critChance hit.critDamage := by
    intro d hit hhit
    obtain ⟨own, _, _, rfl⟩ := Hit.of?_eq_some_iff.mp hhit
    exact zero_le_one.trans (one_le_critFactor (critChance_nonneg _ _ _)
      (one_le_critDamage hskill.critDamage (hgrows.resolve .critDamage s.scopes)))
  exact {
    hit := fun d _ own _ hit hhit => ⟨fun _ => hmultiplier _ _, fun _ => mul_nonneg hstrength (hcrit hhit)⟩
    burst := fun _ hit hhit b _ => ⟨fun _ => hmultiplier _ _,
      fun _ => mul_nonneg (mul_nonneg hstrength (hcrit hhit)) (hmultiplier _ _)⟩
    overTime := fun own _ => ⟨fun _ => mul_nonneg (mul_nonneg (hmultiplier _ _) (hmultiplier _ _))
      (zero_le_one.trans (one_le_attributes hskill.perPoint hgrows)), fun _ => hmultiplier _ _⟩ }

end Summary

/-- What a save and game data measure is not below zero; what the texts of affixes say may be. -/
structure Given (save : Save ℚ) (d : GameData ℚ) : Prop where
  weapons : ∀ g ∈ save.gear, ∀ v ∈ g.weapon, 0 ≤ v.minDamage ∧ 0 ≤ v.maxDamage ∧ 0 ≤ v.attackSpeed ∧ 0 ≤ v.critRating
  accepted : d.Accepted
  limits : 0 ≤ d.constants.baseMaxResistance ∧ 0 ≤ d.constants.ratingPerFullChance
  crit : 0 ≤ d.constants.baseCritDamage ∧ 0 ≤ d.constants.spellRating ∧ 0 ≤ d.constants.unarmedRating
  rates : 0 ≤ d.constants.unarmedSpeed ∧ 0 ≤ d.constants.damagePerPoint ∧ 0 ≤ d.constants.baseChargeRate
  baseDamage : ∀ s ∈ d.skills, ∀ damage ∈ s.baseDamage, 0 ≤ damage

namespace Offense

variable {ε : Type} {fetch : Fetcher ε} {cache : TreeCache} {save : Save ℚ} {l : Loadout ℚ}
  {configuration : Configuration} {d : GameData ℚ} {name : String}

lemma sane_of_given (hl : (Loadout.ofSave fetch cache save).result = .ok l) (hgiven : Given save d)
    (hs : s ∈ d.skill? name) : Sane s (weapon? l) d.constants := by
  refine ⟨Skill.fault?_of_firstFault? hgiven.accepted.skills s (List.mem_of_find?_eq_some hs), hgiven.accepted.constants,
    fun v hv => ?_, hgiven.rates.1⟩
  obtain ⟨talents, rfl⟩ := Loadout.exists_of_ofSave hl
  obtain ⟨g, hg, hweapon⟩ := Option.bind_eq_some_iff.mp hv
  have hkept : g ∈ CleanUp.gear save.gear := List.mem_of_find?_eq_some hg
  exact (hgiven.weapons g (CleanUp.firsts_sublist.subset hkept) v hweapon).2.2.1

theorem no_negative_figure_iff {o : Offense ℚ} (hl : (Loadout.ofSave fetch cache save).result = .ok l)
    (hgiven : Given save d) (ho : Offense.of? l configuration d = some o) :
    (∀ e ∈ o.skills, e.2.NonNegative) ↔ ∀ u ∈ l.enabledActive, ∀ s ∈ d.skill? u.name,
      Summary.Bearable s ⟨Loadout.skillPool (l.pool configuration d.templates) d.templates u, configuration⟩ (weapon? l)
        d.constants := by
  have hnames : (l.active.map (·.name)).Nodup := by
    obtain ⟨talents, rfl⟩ := Loadout.exists_of_ofSave hl
    exact CleanUp.nodup_skills _ _
  rw [forall_skills_iff hnames ho]
  refine forall₂_congr fun u hu => forall₂_congr fun s hs => ?_
  have hsane := sane_of_given hl hgiven hs
  obtain ⟨hu, henabled⟩ := List.mem_filter.mp hu
  constructor
  · rintro ⟨a, hnonneg, ha⟩
    exact (Summary.nonNegative_iff hsane ha).mp hnonneg
  · intro hbearable
    obtain ⟨a, _, ha⟩ := exists_lookup_skills hnames ho hu henabled hs
    exact ⟨a, (Summary.nonNegative_iff hsane ha).mpr hbearable, ha⟩

def frostSpike (affix : String) : Save ℚ where
  gear := [⟨.mainHand, "Sword", some ⟨10, 20, 3 / 2, 0⟩, []⟩]
  talents := []
  active := [⟨"Frost Spike", 1, true, []⟩]
  passive := []
  prisms := []
  rings := []
  configuration := ⟨[], [affix]⟩

lemma given_frostSpike (affix : String) : Given (frostSpike affix) .bundled where
  weapons := by
    intro g hg v hv
    obtain rfl := List.mem_singleton.mp hg
    obtain rfl := Option.some.inj hv
    norm_num
  accepted := GameData.accepted_bundled
  limits := by decide +kernel
  crit := by decide +kernel
  rates := by decide +kernel
  baseDamage := by decide +kernel

theorem frostSpike_slowed : ∃ o : Offense ℚ,
    (Loadout.ofSave (fun _ => .error (LoadError.parse "")) .empty (frostSpike "-50% attack speed")).result =
        .ok (.assemble (frostSpike "-50% attack speed") []) ∧
      Given (frostSpike "-50% attack speed") .bundled ∧
      Offense.of? (.assemble (frostSpike "-50% attack speed") []) (frostSpike "-50% attack speed").configuration .bundled =
        some o ∧
      o.skills ≠ [] ∧ ∀ e ∈ o.skills, e.2.NonNegative := by
  have hl : (Loadout.ofSave (fun _ => .error (LoadError.parse "")) .empty (frostSpike "-50% attack speed")).result =
      .ok (.assemble (frostSpike "-50% attack speed") []) := rfl
  have hgiven := given_frostSpike "-50% attack speed"
  have hreturns : ∃ o ∈ Offense.of? (.assemble (frostSpike "-50% attack speed") [])
      (frostSpike "-50% attack speed").configuration .bundled, o.skills ≠ [] := by decide +kernel
  obtain ⟨o, ho, hskills⟩ := hreturns
  exact ⟨o, hl, hgiven, ho, hskills, (no_negative_figure_iff hl hgiven ho).mpr (by decide +kernel)⟩

theorem frostSpike_slowed_below_a_standstill :
    ¬ ∀ (fetch : Fetcher LoadError) (cache : TreeCache) (save : Save ℚ) (l : Loadout ℚ) (configuration : Configuration)
      (d : GameData ℚ) (o : Offense ℚ), (Loadout.ofSave fetch cache save).result = .ok l → Given save d →
      Offense.of? l configuration d = some o → ∀ e ∈ o.skills, e.2.NonNegative := by
  intro hall
  have hrates : ∀ o ∈ Offense.of? (.assemble (frostSpike "-200% attack speed") [])
      (frostSpike "-200% attack speed").configuration .bundled, ∀ e ∈ o.skills, ∀ hit ∈ e.2.attack,
        0 ≤ hit.hitsPerSecond := by
    intro o ho e he
    exact (hall (fun _ => .error (.parse "")) .empty (frostSpike "-200% attack speed") (.assemble _ []) _ .bundled o rfl
      (given_frostSpike _) ho e he).attackRate
  revert hrates
  decide +kernel

end Offense
end CharacterBuild.Damage
