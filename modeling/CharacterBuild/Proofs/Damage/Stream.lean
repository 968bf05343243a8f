import Mathlib
import CharacterBuild.Proofs.Damage.Exact

namespace CharacterBuild.Damage

namespace Branch

def all : List Branch :=
  [.attack, .spell, .burst, .overload, .overTime, .reap]

end Branch

namespace Summary

variable {α : Type} [Number α] {s : Skill α} {p : Pool α} {w : Option (Weapon α)} {c : Constants α} {a : Summary α}
  {reap : Option (Reap α)}

structure Joined (s : Skill α) (a : Summary α) : Prop where
  delivery : ¬ (a.populated .attack = true ∧ a.populated .spell = true)
  spell_of_burst : a.populated .burst = true → a.populated .spell = true
  burst_of_overload : a.populated .overload = true → a.populated .burst = true
  overTime_of_reap : a.populated .reap = true → a.populated .overTime = true
  overTime_iff : a.populated .overTime = true ↔ s.persistent.isSome = true
  total : a.totalDps = a.dps .attack + a.dps .spell +
    (if a.populated .burst then a.dps .burst + a.dps .overload else 0) + a.dps .overTime + a.dps .reap

lemma burst_made_eq_bind : (made s p w c reap).burst = (made s p w c reap).spell.bind (Burst.of? · p c) := by
  rw [burst_made, spell_made]
  split <;> rfl

lemma joined_of_of? (h : of? s p w c = some a) : a.Joined s := by
  have htotal := total_of_of? h
  obtain ⟨reap, hreap, rfl⟩ := exists_of_of? h
  exact {
    delivery := by
      rintro ⟨hattack, hspell⟩
      rw [populated, attack_made] at hattack
      rw [populated, spell_made] at hspell
      split at hattack
      · next hdelivery =>
        rw [hdelivery] at hspell
        cases hspell
      · cases hattack
    spell_of_burst := by
      intro hburst
      rw [populated, burst_made_eq_bind] at hburst
      exact Option.isSome_of_isSome_bind hburst
    burst_of_overload := burst_of_overload
    overTime_of_reap := by
      intro hsome
      change reap.isSome = true at hsome
      change (overTime? s p (damage s p) (attributes s p c)).isSome = true
      cases ho : overTime? s p (damage s p) (attributes s p c) with
      | none =>
        rw [ho] at hreap
        obtain rfl := Option.some.inj hreap
        cases hsome
      | some o => rfl
    overTime_iff := iff_of_eq (congrArg (· = true) Option.isSome_map)
    total := htotal }

lemma hits_of_update_persistent {d : Option (Persistent α)} {b : Summary α} (h : of? s p w c = some a)
    (hb : of? { s with persistent := d } p w c = some b) : b.attack = a.attack ∧ b.spell = a.spell ∧ b.burst = a.burst := by
  obtain ⟨_, _, rfl⟩ := exists_of_of? h
  obtain ⟨_, _, rfl⟩ := exists_of_of? hb
  exact ⟨rfl, rfl, rfl⟩

def rearmed (s : Skill α) (added weapon castTime : α) (baseDamage baseCritRating : Option α) : Skill α :=
  { s with
    addedEffectiveness := added
    weaponEffectiveness := weapon
    castTime := castTime
    baseDamage := baseDamage
    baseCritRating := baseCritRating }

lemma overTime_of_rearmed (h : of? s p w c = some a) (added weapon castTime : α) (baseDamage baseCritRating : Option α)
    (v : Option (Weapon α)) :
    ∃ b, of? (rearmed s added weapon castTime baseDamage baseCritRating) p v c = some b ∧ b.overTime = a.overTime ∧
      b.reap = a.reap := by
  obtain ⟨reap, hreap, rfl⟩ := exists_of_of? h
  refine ⟨made (rearmed s added weapon castTime baseDamage baseCritRating) p v c reap, ?_, rfl, rfl⟩
  rw [of?_eq]
  exact congrArg (Option.map _) hreap

lemma sum_populated (a : Summary ℚ) : ((Branch.all.filter a.populated).map a.dps).sum = (Branch.all.map a.dps).sum := by
  have hrest : ((Branch.all.filter fun b => ¬ a.populated b = true).map a.dps).sum = 0 := by
    refine List.sum_eq_zero fun x hx => ?_
    obtain ⟨b, hb, rfl⟩ := List.mem_map.mp hx
    exact dps_of_not_populated (of_decide_eq_true (List.mem_filter.mp hb).2)
  have hsplit := List.sum_map_filter_add_sum_map_filter_not (fun b => a.populated b = true) a.dps Branch.all
  rw [hrest, add_zero] at hsplit
  rw [← hsplit]
  simp only [Bool.decide_eq_true]

lemma totalDps_eq_sum {s : Skill ℚ} {p : Pool ℚ} {w : Option (Weapon ℚ)} {c : Constants ℚ} {a : Summary ℚ}
    (h : of? s p w c = some a) : a.totalDps = ((Branch.all.filter a.populated).map a.dps).sum := by
  rw [sum_populated, totalDps_eq h]
  simp only [Branch.all, List.map_cons, List.map_nil, List.sum_cons, List.sum_nil]
  ring

theorem streams_apart :
    (∀ (s : Skill ℚ) (p : Pool ℚ) (w : Option (Weapon ℚ)) (c : Constants ℚ) (a : Summary ℚ), of? s p w c = some a →
      a.totalDps = ((Branch.all.filter a.populated).map a.dps).sum) ∧
    ∀ (α : Type) [Number α] (s : Skill α) (p : Pool α) (w : Option (Weapon α)) (c : Constants α) (a : Summary α),
      of? s p w c = some a →
      a.Joined s ∧
      (∀ (d : Option (Persistent α)) (b : Summary α), of? { s with persistent := d } p w c = some b →
        b.attack = a.attack ∧ b.spell = a.spell ∧ b.burst = a.burst) ∧
      ∀ (added weapon castTime : α) (baseDamage baseCritRating : Option α) (v : Option (Weapon α)),
        ∃ b, of? (rearmed s added weapon castTime baseDamage baseCritRating) p v c = some b ∧
          b.overTime = a.overTime ∧ b.reap = a.reap :=
  ⟨fun _ _ _ _ _ => totalDps_eq_sum, fun _ _ _ _ _ _ _ h =>
    ⟨joined_of_of? h, fun _ _ => hits_of_update_persistent h, overTime_of_rearmed h⟩⟩

def blizzard : Skill ℚ where
  name := "Blizzard"
  tags := [.spell, .persistent, .cold]
  attributes := []
  addedEffectiveness := 1
  weaponEffectiveness := 1
  baseDamage := some 100
  castTime := 1 / 2
  baseCritRating := some 0
  persistent := some ⟨1000, 2⟩

def blizzardPool : Pool ℚ where
  modifiers := Affix.modifiers
    "+2 max spell burst\ningenuity overload deals 50% of spell burst damage\nreaps 1 s of damage over time"
  configuration := .empty

theorem blizzard_streams_apart : ∃ a, of? blizzard blizzardPool none .default = some a ∧
    (Branch.all.filter a.populated = [.spell, .burst, .overload, .overTime, .reap] ∧
      a.totalDps = ([.spell, .burst, .overload, .overTime, .reap].map a.dps).sum ∧ a.totalDps = 2275) ∧
    (∃ b, of? { blizzard with persistent := none } blizzardPool none .default = some b ∧ b.overTime = none ∧
      b.spell = a.spell ∧ b.burst = a.burst) ∧
    ∃ b, of? (rearmed blizzard 1 1 1 none none) blizzardPool none .default = some b ∧ b.spell = none ∧
      b.overTime = a.overTime ∧ b.reap = a.reap := by
  have hwhole : (of? blizzard blizzardPool none .default).map (fun a => (Branch.all.filter a.populated, a.totalDps)) =
      some ([.spell, .burst, .overload, .overTime, .reap], 2275) := by decide +kernel
  have hhits : (of? { blizzard with persistent := none } blizzardPool none .default).map (·.overTime) = some none := by
    decide +kernel
  have hrest : (of? (rearmed blizzard 1 1 1 none none) blizzardPool none .default).map (·.spell) = some none := by
    decide +kernel
  obtain ⟨a, ha, hvalues⟩ := Option.map_eq_some_iff.mp hwhole
  obtain ⟨hpopulated, htotal⟩ := Prod.mk.inj hvalues
  obtain ⟨b, hb, hnone⟩ := Option.map_eq_some_iff.mp hhits
  obtain ⟨hsum, hapart⟩ := streams_apart
  obtain ⟨_, hpersistent, hrearmed⟩ := hapart ℚ _ _ _ _ a ha
  obtain ⟨_, hspell, hburst⟩ := hpersistent none b hb
  obtain ⟨b', hb', hoverTime, hreap⟩ := hrearmed 1 1 1 none none none
  rw [hb'] at hrest
  refine ⟨a, ha, ⟨hpopulated, ?_, htotal⟩, ⟨b, hb, hnone, hspell, hburst⟩,
    b', hb', Option.some.inj hrest, hoverTime, hreap⟩
  rw [← hpopulated]
  exact hsum _ _ _ _ a ha

end Summary
end CharacterBuild.Damage
