import Mathlib
import CharacterBuild.Damage.Summary
import CharacterBuild.Proofs.Stats.Matching

namespace CharacterBuild.Damage

variable {α : Type} [Number α] {s : Skill α} {p : Pool α} {w : Option (Weapon α)} {c : Constants α} {multiplier : α}
  {d : Delivery} {own : Delivered α} {hit : Hit α} {o : OverTime α} {a : Summary α}

inductive Branch where
  | attack | spell | burst | overload | overTime | reap
deriving DecidableEq

def Summary.dps (a : Summary α) : Branch → α
  | .attack => a.attack.elim 0 (·.dps)
  | .spell => a.spell.elim 0 (·.dps)
  | .burst => a.burst.elim 0 (·.dps)
  | .overload => a.burst.elim 0 fun b => b.overload.elim 0 (·.dps)
  | .overTime => a.overTime.elim 0 (·.dps)
  | .reap => a.reap.elim 0 (·.dps)

omit [Number α] in
def Summary.populated (a : Summary α) : Branch → Bool
  | .attack => a.attack.isSome
  | .spell => a.spell.isSome
  | .burst => a.burst.isSome
  | .overload => (a.burst.bind (·.overload)).isSome
  | .overTime => a.overTime.isSome
  | .reap => a.reap.isSome

lemma elim_of_not_isSome {β : Type} {x : Option β} {f : β → α} (h : ¬ x.isSome = true) : x.elim 0 f = 0 := by
  rw [Option.not_isSome_iff_eq_none.mp h]
  rfl

lemma Summary.dps_of_not_populated {b : Branch} (h : ¬ a.populated b = true) : a.dps b = 0 := by
  cases b with
  | attack => exact elim_of_not_isSome h
  | spell => exact elim_of_not_isSome h
  | burst => exact elim_of_not_isSome h
  | overload =>
    cases hb : a.burst with
    | none =>
      rw [dps, hb]
      rfl
    | some b =>
      rw [populated, hb] at h
      rw [dps, hb]
      exact elim_of_not_isSome (x := b.overload) h
  | overTime => exact elim_of_not_isSome h
  | reap => exact elim_of_not_isSome h

omit [Number α] in
lemma Summary.burst_of_overload (h : a.populated .overload = true) : a.populated .burst = true :=
  Option.isSome_of_isSome_bind h

namespace Hit

def made (s : Skill α) (p : Pool α) (c : Constants α) (multiplier : α) (d : Delivery) (own : Delivered α) : Hit α :=
  let baseDamage := own.damage + p.sum .flatDamage [d.scope] * s.addedEffectiveness
  let chance := Damage.critChance (s.baseCritRating.getD own.critRating) (p.resolve .critRating s.scopes).multiplier
    c.ratingPerFullChance
  let damage := Damage.critDamage c.baseCritDamage (p.resolve .critDamage s.scopes)
  let averageWithCrit := baseDamage * multiplier * critFactor chance damage
  let hitsPerSecond := own.speed * (p.resolveGlobal (speedStat d)).multiplier
  ⟨baseDamage, baseDamage * multiplier, chance, damage, averageWithCrit, hitsPerSecond, averageWithCrit * hitsPerSecond⟩

lemma of?_eq (h : delivered? s w c d = some own) :
    of? s p w c multiplier d =
      if (made s p c multiplier d own).baseDamage ≤ 0 then none else some (made s p c multiplier d own) := by
  rw [of?, h]
  by_cases hbase : (made s p c multiplier d own).baseDamage ≤ 0
  · rw [if_pos hbase]
    exact congrArg (Option.bind · _) (if_neg (not_not_intro hbase))
  · rw [if_neg hbase]
    exact congrArg (Option.bind · _) (if_pos hbase)

lemma of?_eq_some_iff : of? s p w c multiplier d = some hit ↔
    ∃ own, delivered? s w c d = some own ∧ ¬ (made s p c multiplier d own).baseDamage ≤ 0 ∧
      made s p c multiplier d own = hit := by
  cases hown : delivered? s w c d with
  | none => simp [of?, hown]
  | some own =>
    rw [of?_eq hown]
    split
    · next hbase => simp [hbase]
    · next hbase => simp [hbase]

end Hit

namespace Burst

def made (hit : Hit α) (p : Pool α) (c : Constants α) : Burst α :=
  let maxCharges := Number.floor (p.sum .maxSpellBurst [])
  let chargesPerSecond := c.baseChargeRate * (p.resolveGlobal .spellBurstChargeSpeed).multiplier
  let releasesPerSecond := Number.min (chargesPerSecond / maxCharges) hit.hitsPerSecond
  let multiplier := (p.resolveGlobal .spellBurstDamage).multiplier
  let dps := hit.averageWithCrit * multiplier * maxCharges * releasesPerSecond
  let share := p.sum .ingenuityOverload []
  ⟨maxCharges, chargesPerSecond, releasesPerSecond, multiplier, dps, if 0 < share then some ⟨share, dps * share⟩ else none⟩

lemma of?_eq_some_iff {b : Burst α} : of? hit p c = some b ↔ ¬ (made hit p c).maxCharges < 1 ∧ made hit p c = b := by
  change (if (made hit p c).maxCharges < 1 then none else some (made hit p c)) = some b ↔ _
  split
  · next hcharges => simp [hcharges]
  · next hcharges => simp [hcharges]

end Burst

namespace Reap

def sourceDps (o : OverTime α) (durationFactor recovery : α) (source : α × α) : α :=
  let seconds := source.1 * durationFactor
  o.dps * (if seconds < 0 then 0 else if o.duration < seconds then o.duration else seconds) * recovery / source.2

lemma sourceDps?_eq (o : OverTime α) (durationFactor recovery : α) :
    sourceDps? o durationFactor recovery = fun source =>
      if (0 : α) ≤ o.duration then some (sourceDps o durationFactor recovery source) else none := by
  funext source
  rw [sourceDps?, Number.clamp?]
  split <;> rfl

def recovering (p : Pool α) : List (α × α) :=
  (sources p).filter fun source => decide ((0 : α) < source.2)

def made (o : OverTime α) (p : Pool α) : Reap α :=
  let recoveryBonus := (p.resolveGlobal .reapRecovery).increase
  let durationBonus := (p.resolveGlobal .reapDuration).increase
  let recovery := Number.max (1 + recoveryBonus) 0
  ⟨sumOf ((recovering p).map (sourceDps o (1 + durationBonus) recovery)), recoveryBonus * 100, durationBonus * 100⟩

lemma mapM_ite {β γ : Type} {P : Prop} [Decidable P] (f : β → γ) (xs : List β) :
    xs.mapM (fun x => if P then some (f x) else none) = if xs = [] ∨ P then some (xs.map f) else none := by
  by_cases hP : P
  · simp only [hP, or_true, if_true]
    exact List.mapM_pure
  · cases xs with
    | nil => rfl
    | cons x xs => simp [hP]

lemma of?_eq : of? o p =
    if recovering p = [] ∨ (0 : α) ≤ o.duration then some (if sources p = [] then none else some (made o p))
    else none := by
  unfold of?
  split
  · next hsources => simp [recovering, hsources]
  · next hsources =>
    dsimp only
    rw [sourceDps?_eq, mapM_ite, if_neg hsources]
    by_cases h : recovering p = [] ∨ (0 : α) ≤ o.duration
    · rw [if_pos h]
      exact congrArg (Option.bind · _) (if_pos h)
    · rw [if_neg h]
      exact congrArg (Option.bind · _) (if_neg h)

lemma mem_recovering {source : α × α} : source ∈ recovering p ↔
    0 < source.2 ∧ ∃ m ∈ p.modifiers, m.scope = .global ∧ m.effect = .reap source.2 ∧ p.effectiveValue m = source.1 := by
  simp only [recovering, sources, List.mem_filter, List.mem_filterMap, Pool.mem_matching, decide_eq_true_eq]
  constructor
  · rintro ⟨⟨m, ⟨hm, _, hscope⟩, h⟩, hpos⟩
    split at h
    · next heffect =>
      obtain rfl := Option.some.inj h
      exact ⟨hpos, m, hm, by simpa using hscope, heffect, rfl⟩
    · cases h
  · rintro ⟨hpos, m, hm, hscope, heffect, hvalue⟩
    refine ⟨⟨m, ⟨hm, ?_, .inl hscope⟩, ?_⟩, hpos⟩
    · rw [Modifier.stat, heffect]
      rfl
    · rw [heffect, hvalue]

end Reap

namespace Summary

def damage (s : Skill α) (p : Pool α) : α :=
  (p.resolve .damage s.scopes).multiplier

def attributes (s : Skill α) (p : Pool α) (c : Constants α) : α :=
  attributeMultiplier p s.attributes c.damagePerPoint

def reap? (p : Pool α) : Option (OverTime α) → Option (Option (Reap α))
  | some o => Reap.of? o p
  | none => some none

def made (s : Skill α) (p : Pool α) (w : Option (Weapon α)) (c : Constants α) (reap : Option (Reap α)) : Summary α :=
  let hits := Summary.hits s p w c (damage s p * attributes s p c)
  let overTime := overTime? s p (damage s p) (attributes s p c)
  ⟨hits.1, hits.2.1, hits.2.2, overTime, reap, branchTotal hits.1 hits.2.1 hits.2.2 overTime reap⟩

lemma of?_eq : of? s p w c = (reap? p (overTime? s p (damage s p) (attributes s p c))).map (made s p w c) := by
  unfold of? made damage attributes
  dsimp only
  generalize hits s p w c _ = hits
  generalize overTime? s p _ _ = overTime
  obtain ⟨attack, spell, burst⟩ := hits
  cases overTime with
  | none => rfl
  | some o =>
    dsimp only [reap?]
    cases Reap.of? o p <;> rfl

lemma exists_of_of? (h : of? s p w c = some a) :
    ∃ reap, reap? p (overTime? s p (damage s p) (attributes s p c)) = some reap ∧ made s p w c reap = a := by
  rw [of?_eq] at h
  exact Option.map_eq_some_iff.mp h

lemma of?_congr {s' : Skill α} {q : Pool α} (hdamage : damage s p = damage s' q)
    (hattributes : attributes s p c = attributes s' q c) (hhits : ∀ k, hits s p w c k = hits s' q w c k)
    (hoverTime : ∀ x y, overTime? s p x y = overTime? s' q x y)
    (hreap : ∀ x y, ∀ o ∈ overTime? s p x y, Reap.of? o p = Reap.of? o q) : of? s p w c = of? s' q w c := by
  have hmade : made s p w c = made s' q w c := by
    funext reap
    rw [made, made, hdamage, hattributes, hhits, hoverTime]
  rw [of?_eq, of?_eq, hmade, ← hdamage, ← hattributes, ← hoverTime]
  cases ho : overTime? s p (damage s p) (attributes s p c) with
  | none => rfl
  | some o => rw [reap?, reap?, hreap _ _ o ho]

lemma total_of_of? (h : of? s p w c = some a) :
    a.totalDps = a.dps .attack + a.dps .spell +
      (if a.populated .burst then a.dps .burst + a.dps .overload else 0) + a.dps .overTime + a.dps .reap := by
  obtain ⟨reap, _, rfl⟩ := exists_of_of? h
  have hburst : ∀ b : Option (Burst α), b.elim 0 Burst.total =
      if b.isSome then b.elim 0 (·.dps) + b.elim 0 (fun b => b.overload.elim 0 (·.dps)) else 0 := by
    intro b
    cases b <;> rfl
  change branchTotal _ _ _ _ _ = _
  rw [branchTotal, hburst]
  rfl

lemma hits_eq : hits s p w c multiplier =
    (if s.delivery? = some .attack then Hit.of? s p w c multiplier .attack else none,
      if s.delivery? = some .spell then Hit.of? s p w c multiplier .spell else none,
      if s.delivery? = some .spell then (Hit.of? s p w c multiplier .spell).bind (Burst.of? · p c) else none) := by
  unfold hits
  split
  · next h => simp [h]
  · next h => simp [h]
  · next h => simp [h]

lemma hits_congr {s' : Skill α} {q : Pool α} (hdelivery : s.delivery? = s'.delivery?)
    (hhit : ∀ d ∈ s.delivery?, Hit.of? s p w c multiplier d = Hit.of? s' q w c multiplier d)
    (hburst : .spell ∈ s.delivery? → ∀ hit ∈ Hit.of? s p w c multiplier .spell, Burst.of? hit p c = Burst.of? hit q c) :
    hits s p w c multiplier = hits s' q w c multiplier := by
  rw [hits, hits, ← hdelivery]
  cases hd : s.delivery? with
  | none => rfl
  | some d =>
    cases d with
    | attack => rw [hhit _ hd]
    | spell =>
      dsimp only
      rw [← hhit _ hd]
      cases hspell : Hit.of? s p w c multiplier .spell with
      | none => rfl
      | some hit =>
        dsimp only [Option.bind_some]
        rw [hburst hd hit hspell]

variable {reap : Option (Reap α)}

lemma attack_made : (made s p w c reap).attack =
    if s.delivery? = some .attack then Hit.of? s p w c (damage s p * attributes s p c) .attack else none := by
  rw [made, hits_eq]

lemma spell_made : (made s p w c reap).spell =
    if s.delivery? = some .spell then Hit.of? s p w c (damage s p * attributes s p c) .spell else none := by
  rw [made, hits_eq]

lemma burst_made : (made s p w c reap).burst =
    if s.delivery? = some .spell then
      (Hit.of? s p w c (damage s p * attributes s p c) .spell).bind (Burst.of? · p c)
    else none := by
  rw [made, hits_eq]

end Summary
end CharacterBuild.Damage
