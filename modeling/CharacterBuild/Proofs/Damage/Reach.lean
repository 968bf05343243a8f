import Mathlib
import CharacterBuild.Number.Rational
import CharacterBuild.Proofs.Damage.Branch
import CharacterBuild.Proofs.Stats.Matching

namespace CharacterBuild

namespace Skill

variable {α : Type}

def hitting? (s : Skill α) : Option Delivery :=
  match s.delivery? with
  | some .spell => if s.baseDamage.isSome then some .spell else none
  | d => d

def reach (s : Skill α) : Stat → List Scope
  | .damage => .global :: s.scopes
  | .attributePoints a | .attributePercent a => if a ∈ s.attributes then [.global] else []
  | .flatDamage => match s.hitting? with
    | some d => [.global, d.scope]
    | none => []
  | .critRating | .critDamage => if s.hitting?.isSome then .global :: s.scopes else []
  | .attackSpeed => if s.hitting? = some .attack then [.global] else []
  | .castSpeed | .maxSpellBurst | .spellBurstChargeSpeed | .spellBurstDamage | .ingenuityOverload =>
    if s.hitting? = some .spell then [.global] else []
  | .damageOverTime => if s.persistent.isSome then .global :: s.scopes else []
  | .skillDuration | .reap | .reapRecovery | .reapDuration => if s.persistent.isSome then [.global] else []
  | .auraEffect | .resistance | .maxResistance => []

def reaches (s : Skill α) (m : Modifier α) : Bool :=
  (s.reach m.stat).contains m.scope

end Skill

variable {α : Type} {s : Skill α} {p : Pool α} {scopes : List Scope}

namespace Pool

def within (p : Pool α) (s : Skill α) : Pool α :=
  { p with modifiers := p.modifiers.filter s.reaches }

lemma matching_within {stat : Stat} (h : ∀ scope ∈ .global :: scopes, scope ∈ s.reach stat) :
    (p.within s).matching stat scopes = p.matching stat scopes := by
  rw [matching_eq, matching_eq, within, List.filter_filter]
  refine List.filter_congr fun m _ => ?_
  rw [Bool.and_eq_left_iff_imp, decide_eq_true_iff]
  rintro ⟨rfl, hscope⟩
  exact List.contains_iff_mem.mpr (h m.scope (List.mem_cons.mpr hscope))

variable [Number α]

lemma resolve_within (stat : Stat) (h : ∀ scope ∈ .global :: scopes, scope ∈ s.reach stat) :
    (p.within s).resolve stat scopes = p.resolve stat scopes := by
  rw [resolve, resolve, matching_within h]
  rfl

lemma resolveGlobal_within (stat : Stat) (h : .global ∈ s.reach stat) :
    (p.within s).resolveGlobal stat = p.resolveGlobal stat :=
  resolve_within stat (by simpa using h)

lemma sum_within (stat : Stat) (h : ∀ scope ∈ .global :: scopes, scope ∈ s.reach stat) :
    (p.within s).sum stat scopes = p.sum stat scopes := by
  rw [sum, sum, matching_within h]
  rfl

lemma sum_global_within (stat : Stat) (h : .global ∈ s.reach stat) :
    (p.within s).sum stat [] = p.sum stat [] :=
  sum_within stat (by simpa using h)

end Pool

namespace Damage

variable {d : Delivery}

lemma speed_reached (h : s.hitting? = some d) : .global ∈ s.reach (speedStat d) := by
  cases d <;> simp [Skill.reach, speedStat, h]

variable [Number α] {w : Option (Weapon α)} {c : Constants α} {multiplier : α}

lemma attributePoints_within {a : Attribute} (h : a ∈ s.attributes) :
    attributePoints (p.within s) a = attributePoints p a := by
  rw [attributePoints, attributePoints, Pool.sum_global_within _ (by simp [Skill.reach, h]),
    Pool.resolveGlobal_within _ (by simp [Skill.reach, h])]

lemma attributeMultiplier_within (perPoint : α) :
    attributeMultiplier (p.within s) s.attributes perPoint = attributeMultiplier p s.attributes perPoint := by
  have hpoints : s.attributes.map (attributePoints (p.within s)) = s.attributes.map (attributePoints p) :=
    List.map_congr_left fun _ ha => attributePoints_within ha
  rw [attributeMultiplier, attributeMultiplier, hpoints]

lemma hitting?_of_delivered {own : Delivered α} (hd : s.delivery? = some d) (h : delivered? s w c d = some own) :
    s.hitting? = some d := by
  cases d with
  | attack => rw [Skill.hitting?, hd]
  | spell =>
    obtain ⟨damage, hdamage, _⟩ := Option.map_eq_some_iff.mp h
    rw [Skill.hitting?, hd, hdamage]
    rfl

lemma hitting?_of_hit {hit : Hit α} (hd : s.delivery? = some d) (h : Hit.of? s p w c multiplier d = some hit) :
    s.hitting? = some d := by
  obtain ⟨own, hown, _⟩ := Option.bind_eq_some_iff.mp h
  exact hitting?_of_delivered hd hown

lemma hit_within (hd : s.delivery? = some d) :
    Hit.of? s (p.within s) w c multiplier d = Hit.of? s p w c multiplier d := by
  cases hown : delivered? s w c d with
  | none => rw [Hit.of?, Hit.of?, hown]; rfl
  | some own =>
    have hhit := hitting?_of_delivered hd hown
    rw [Hit.of?, Hit.of?, hown, Pool.sum_within _ (by simp [Skill.reach, hhit]),
      Pool.resolve_within .critRating (by simp [Skill.reach, hhit]),
      Pool.resolve_within .critDamage (by simp [Skill.reach, hhit]),
      Pool.resolveGlobal_within _ (speed_reached hhit)]

lemma burst_within {hit : Hit α} (h : s.hitting? = some .spell) :
    Burst.of? hit (p.within s) c = Burst.of? hit p c := by
  rw [Burst.of?, Burst.of?, Pool.sum_global_within .maxSpellBurst (by simp [Skill.reach, h]),
    Pool.resolveGlobal_within .spellBurstChargeSpeed (by simp [Skill.reach, h]),
    Pool.resolveGlobal_within .spellBurstDamage (by simp [Skill.reach, h]),
    Pool.sum_global_within .ingenuityOverload (by simp [Skill.reach, h])]

lemma hits_within : Summary.hits s (p.within s) w c multiplier = Summary.hits s p w c multiplier :=
  Summary.hits_congr rfl (fun _ hd => hit_within hd) fun hd _ hhit => burst_within (hitting?_of_hit hd hhit)

lemma overTime?_within {damage attributes : α} :
    Summary.overTime? s (p.within s) damage attributes = Summary.overTime? s p damage attributes := by
  cases hpersistent : s.persistent with
  | none => rw [Summary.overTime?, Summary.overTime?, hpersistent]; rfl
  | some persistent =>
    rw [Summary.overTime?, Summary.overTime?, Pool.resolve_within _ (by simp [Skill.reach, hpersistent]),
      Pool.resolveGlobal_within _ (by simp [Skill.reach, hpersistent])]

lemma persistent_of_overTime {damage attributes : α} {o : OverTime α}
    (h : Summary.overTime? s p damage attributes = some o) : s.persistent.isSome := by
  obtain ⟨persistent, hpersistent, _⟩ := Option.map_eq_some_iff.mp h
  rw [hpersistent]
  rfl

lemma sources_within (h : s.persistent.isSome) : Reap.sources (p.within s) = Reap.sources p := by
  rw [Reap.sources, Reap.sources, Pool.matching_within (by simp [Skill.reach, h])]
  rfl

lemma reap_within {o : OverTime α} (h : s.persistent.isSome) : Reap.of? o (p.within s) = Reap.of? o p := by
  rw [Reap.of?, Reap.of?, sources_within h, Pool.resolveGlobal_within .reapRecovery (by simp [Skill.reach, h]),
    Pool.resolveGlobal_within .reapDuration (by simp [Skill.reach, h])]

lemma summary_within (s : Skill α) (p : Pool α) (w : Option (Weapon α)) (c : Constants α) :
    Summary.of? s (p.within s) w c = Summary.of? s p w c := by
  refine Summary.of?_congr ?_ (attributeMultiplier_within _) (fun _ => hits_within) (fun _ _ => overTime?_within)
    fun _ _ _ ho => reap_within (persistent_of_overTime ho)
  rw [Summary.damage, Summary.damage, Pool.resolve_within _ (by simp [Skill.reach])]

theorem summary_eq_of_reaches {A B : List (Modifier α)} (h : A.filter s.reaches = B.filter s.reaches)
    (configuration : Configuration) (w : Option (Weapon α)) (c : Constants α) :
    Summary.of? s ⟨A, configuration⟩ w c = Summary.of? s ⟨B, configuration⟩ w c := by
  have hpools : Pool.within ⟨A, configuration⟩ s = Pool.within ⟨B, configuration⟩ s := by
    rw [Pool.within, Pool.within, h]
  rw [← summary_within s ⟨A, configuration⟩, hpools, summary_within]

def fireBolt : Skill ℚ where
  name := "Fire Bolt"
  tags := [.spell, .fire]
  attributes := [.intelligence]
  addedEffectiveness := 1
  weaponEffectiveness := 1
  baseDamage := some 100
  castTime := 1
  baseCritRating := none
  persistent := none

def wand : List (Modifier ℚ) :=
  [{ effect := .damage, value := 1 / 5, scope := .elemental, additional := true }, .flatDamage .cold 3 5 .spell,
    { effect := .castSpeed, value := 1 / 10 }, { effect := .maxSpellBurst, value := 2, additional := true }]

def swordBeside (ms : List (Modifier ℚ)) : List (Modifier ℚ) :=
  .flatDamage .fire 30 50 .attack :: { effect := .attackSpeed, value := 1 / 4 } ::
    ms.flatMap fun m => [m, { effect := .critDamage, value := 1 / 2, scope := .attack },
      { effect := .attributePoints .strength, value := 10, additional := true }]

theorem fireBolt_ignores_sword :
    (swordBeside wand).filter fireBolt.reaches = wand.filter fireBolt.reaches ∧
      Summary.of? fireBolt ⟨swordBeside wand, .empty⟩ none .default =
        Summary.of? fireBolt ⟨wand, .empty⟩ none .default := by
  have hreached : (swordBeside wand).filter fireBolt.reaches = wand.filter fireBolt.reaches := by decide +kernel
  exact ⟨hreached, summary_eq_of_reaches hreached .empty none .default⟩

end Damage
end CharacterBuild
