import Mathlib
import CharacterBuild.Number.Rational
import CharacterBuild.Proofs.Damage.Branch
import CharacterBuild.Proofs.Stats.Matching

/-! A skill reads its scopes as a set. The order of its tags and their repetition are nothing to it, nor is it by which of its
scopes a modifier of damage or of critical strikes has come in. -/

namespace CharacterBuild

variable {α : Type} {s : Skill α} {tags : List SkillTag} {scope : Scope}

namespace Skill

lemma mem_damageScopes : scope ∈ s.damageScopes ↔ ∃ t ∈ s.tags, t.damageType?.map (·.scope) = some scope :=
  List.mem_filterMap

lemma mem_scopes : scope ∈ s.scopes ↔ scope = .global ∨ s.delivery?.map Delivery.scope = some scope ∨
    (scope = .melee ∧ .melee ∈ s.tags) ∨ (scope = .area ∧ .area ∈ s.tags) ∨ scope ∈ s.damageScopes ∨
    (scope = .elemental ∧ ∃ d ∈ s.damageScopes, d.isElemental = true) := by
  have hite : ∀ {P : Prop} [Decidable P] {x : Scope}, (scope ∈ if P then [x] else []) ↔ scope = x ∧ P := by
    intro P _ x
    by_cases h : P <;> simp [h]
  simp only [scopes, List.cons_append, List.mem_cons, List.mem_append, hite, List.any_eq_true, or_assoc, Option.mem_toList]

lemma delivery?_retagged (h : ∀ t, t ∈ tags ↔ t ∈ s.tags) : ({ s with tags := tags } : Skill α).delivery? = s.delivery? := by
  simp only [delivery?, h]

lemma sameScopes_retagged (h : ∀ t, t ∈ tags ↔ t ∈ s.tags) : SameScopes ({ s with tags := tags } : Skill α).scopes s.scopes := by
  intro scope _
  simp only [mem_scopes, mem_damageScopes, delivery?_retagged h, h]

def scopedStats : List Stat :=
  [.damage, .damageOverTime, .critRating, .critDamage]

end Skill

namespace Damage

open Skill

variable {p q : Pool α} {stat : Stat}

/-- A skill finds in one pool, under other tags, what it finds in the other. -/
structure Alike [Number α] (s : Skill α) (tags : List SkillTag) (p q : Pool α) : Prop where
  delivery : ({ s with tags := tags } : Skill α).delivery? = s.delivery?
  inScopes : ∀ stat ∈ scopedStats, p.resolve stat ({ s with tags := tags } : Skill α).scopes = q.resolve stat s.scopes
  matching : ∀ stat ∉ scopedStats, ∀ scopes, p.matching stat scopes = q.matching stat scopes
  configuration : p.configuration = q.configuration

variable [Number α] {w : Option (Weapon α)} {c : Constants α} {k : α} {d : Delivery} {hit : Hit α} {o : OverTime α}

namespace Alike

lemma effectiveValue_eq (h : Alike s tags p q) : p.effectiveValue = q.effectiveValue := by
  funext m
  rw [Pool.effectiveValue, Pool.effectiveValue, h.configuration]

lemma add_eq (h : Alike s tags p q) : p.add = q.add := by
  funext t m
  rw [Pool.add, Pool.add, h.effectiveValue_eq]

lemma sum_eq (h : Alike s tags p q) (hstat : stat ∉ scopedStats) (scopes : List Scope) :
    p.sum stat scopes = q.sum stat scopes := by
  rw [Pool.sum, Pool.sum, h.matching stat hstat, h.effectiveValue_eq]

lemma resolveGlobal_eq (h : Alike s tags p q) (hstat : stat ∉ scopedStats) : p.resolveGlobal stat = q.resolveGlobal stat := by
  rw [Pool.resolveGlobal, Pool.resolveGlobal, Pool.resolve, Pool.resolve, h.matching stat hstat, h.add_eq]

lemma attributes_eq (h : Alike s tags p q) :
    Summary.attributes { s with tags := tags } p c = Summary.attributes s q c := by
  have hpoints : attributePoints p = attributePoints q := by
    funext a
    rw [attributePoints, attributePoints, h.sum_eq (by simp [scopedStats]), h.resolveGlobal_eq (by simp [scopedStats])]
  rw [Summary.attributes, Summary.attributes, attributeMultiplier, attributeMultiplier, hpoints]

lemma hit_eq (h : Alike s tags p q) :
    Hit.of? { s with tags := tags } p w c k d = Hit.of? s q w c k d := by
  have hdelivered : delivered? { s with tags := tags } w c d = delivered? s w c d := by
    cases d <;> rfl
  have hspeed : speedStat d ∉ scopedStats := by
    cases d <;> simp [speedStat, scopedStats]
  rw [Hit.of?, Hit.of?, hdelivered, h.sum_eq (by simp [scopedStats]), h.inScopes _ (by simp [scopedStats]),
    h.inScopes _ (by simp [scopedStats]), h.resolveGlobal_eq hspeed]

lemma burst_eq (h : Alike s tags p q) : Burst.of? hit p c = Burst.of? hit q c := by
  rw [Burst.of?, Burst.of?, h.sum_eq (by simp [scopedStats]), h.sum_eq (by simp [scopedStats]),
    h.resolveGlobal_eq (by simp [scopedStats]), h.resolveGlobal_eq (by simp [scopedStats])]

lemma overTime_eq (h : Alike s tags p q) (x y : α) :
    Summary.overTime? { s with tags := tags } p x y = Summary.overTime? s q x y := by
  rw [Summary.overTime?, Summary.overTime?, h.inScopes _ (by simp [scopedStats]), h.resolveGlobal_eq (by simp [scopedStats])]

lemma reap_eq (h : Alike s tags p q) : Reap.of? o p = Reap.of? o q := by
  have hsources : Reap.sources p = Reap.sources q := by
    rw [Reap.sources, Reap.sources, h.matching _ (by simp [scopedStats]), h.effectiveValue_eq]
  rw [Reap.of?, Reap.of?, hsources, h.resolveGlobal_eq (by simp [scopedStats]), h.resolveGlobal_eq (by simp [scopedStats])]

lemma summary_eq (h : Alike s tags p q) : Summary.of? { s with tags := tags } p w c = Summary.of? s q w c := by
  refine Summary.of?_congr ?_ h.attributes_eq ?_ h.overTime_eq fun _ _ _ _ => h.reap_eq
  · rw [Summary.damage, Summary.damage, h.inScopes _ (by simp [scopedStats])]
  · intro k
    exact Summary.hits_congr h.delivery (fun _ _ => h.hit_eq) fun _ _ _ => h.burst_eq

end Alike

lemma alike_retagged (h : ∀ t, t ∈ tags ↔ t ∈ s.tags) (p : Pool α) : Alike s tags p p where
  delivery := delivery?_retagged h
  inScopes stat _ := Pool.resolve_congr (sameScopes_retagged h) p stat
  matching _ _ _ := rfl
  configuration := rfl

variable {xs ys : List (Modifier α)} {m : Modifier α} {configuration : Configuration}

lemma alike_rescoped (hstat : m.stat ∈ scopedStats) (hm : m.scope ∈ .global :: s.scopes)
    (hscope : scope ∈ .global :: s.scopes) :
    Alike s s.tags ⟨xs ++ { m with scope := scope } :: ys, configuration⟩ ⟨xs ++ m :: ys, configuration⟩ where
  delivery := rfl
  inScopes stat _ := Pool.resolve_rescoped hm hscope xs ys configuration stat
  matching _ hother := Pool.matching_rescoped (ne_of_mem_of_not_mem hstat hother) xs ys configuration
  configuration := rfl

theorem scopes_count_once (p : Pool α) (s : Skill α) (w : Option (Weapon α)) (c : Constants α) :
    (∀ stat scopes scopes', SameScopes scopes scopes' →
      p.matching stat scopes = p.matching stat scopes' ∧ p.resolve stat scopes = p.resolve stat scopes' ∧
        p.sum stat scopes = p.sum stat scopes') ∧
    (∀ stat scopes, (p.matching stat scopes).Sublist p.modifiers ∧
      ∀ xs m ys, p.modifiers = xs ++ m :: ys → p.matching stat scopes =
        Pool.matching ⟨xs, p.configuration⟩ stat scopes ++ (if m.CountsFor stat scopes then [m] else []) ++
          Pool.matching ⟨ys, p.configuration⟩ stat scopes) ∧
    (∀ tags, (∀ t, t ∈ tags ↔ t ∈ s.tags) → Summary.of? { s with tags := tags } p w c = Summary.of? s p w c) ∧
    ∀ xs m ys, p.modifiers = xs ++ m :: ys → m.stat ∈ scopedStats → m.scope ∈ .global :: s.scopes →
      ∀ scope ∈ .global :: s.scopes,
        Summary.of? s { p with modifiers := xs ++ { m with scope := scope } :: ys } w c = Summary.of? s p w c := by
  obtain ⟨ms, configuration⟩ := p
  refine ⟨fun stat scopes scopes' h => ?_, fun stat scopes => ⟨Pool.matching_sublist _ stat scopes, ?_⟩, fun tags h => ?_, ?_⟩
  · exact ⟨Pool.matching_congr h _ stat, Pool.resolve_congr h _ stat, Pool.sum_congr h _ stat⟩
  · rintro xs m ys rfl
    exact Pool.matching_split xs ys m configuration stat scopes
  · exact (alike_retagged h _).summary_eq
  · rintro xs m ys rfl hstat hm scope hscope
    exact (alike_rescoped hstat hm hscope).summary_eq

def meteor : Skill ℚ where
  name := "Meteor"
  tags := [.spell, .area, .fire, .cold]
  attributes := []
  addedEffectiveness := 1
  weaponEffectiveness := 1
  baseDamage := some 100
  castTime := 1
  baseCritRating := none
  persistent := some ⟨50, 2⟩

def frost : Modifier ℚ where
  effect := .damage
  value := 1 / 5
  scope := .cold
  additional := true

def storm : Modifier ℚ where
  effect := .damage
  value := 1 / 2
  scope := .elemental

def crater : Modifier ℚ where
  effect := .critDamage
  value := 1
  scope := .area

def warmth : Modifier ℚ where
  effect := .damage
  value := 1 / 4

def weather : Pool ℚ where
  modifiers := [frost] ++ storm :: [crater, warmth]
  configuration := .empty

theorem meteor_scopes_count_once :
    (SameScopes [.fire, .elemental, .fire, .cold] [.global, .cold, .fire, .elemental] ∧
      weather.resolve .damage [.fire, .elemental, .fire, .cold] = weather.resolve .damage [.global, .cold, .fire, .elemental] ∧
      weather.resolve .damage [.global, .cold, .fire, .elemental] = ⟨1 / 5, 15 / 8⟩) ∧
    weather.matching .damage meteor.scopes = [frost] ++ [storm] ++ [warmth] ∧
    (Summary.of? meteor weather none .default).map (·.totalDps) = some 360 ∧
    Summary.of? { meteor with tags := [.cold, .fire, .fire, .spell, .area, .cold] } weather none .default =
      Summary.of? meteor weather none .default ∧
    Summary.of? meteor { weather with modifiers := [frost] ++ { storm with scope := .global } :: [crater, warmth] } none
        .default =
      Summary.of? meteor weather none .default := by
  obtain ⟨hscopes, hplaces, htags, hrescoped⟩ := scopes_count_once weather meteor none .default
  have hsame : SameScopes [.fire, .elemental, .fire, .cold] [.global, .cold, .fire, .elemental] := by
    intro scope hglobal
    cases scope <;> simp_all
  refine ⟨⟨hsame, (hscopes .damage _ _ hsame).2.1, by decide +kernel⟩, ?_, by decide +kernel, htags _ ?_,
    hrescoped _ storm _ rfl (by decide) (by decide) .global (by decide)⟩
  · rw [(hplaces .damage meteor.scopes).2 _ storm _ rfl]
    decide +kernel
  · intro t
    cases t <;> decide

end Damage
end CharacterBuild
