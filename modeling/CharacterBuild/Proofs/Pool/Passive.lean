import Mathlib
import CharacterBuild.Number.Rational
import CharacterBuild.Pool.Source
import CharacterBuild.Proofs.Affix.Acceptance

/-! Passives add to a build apart from each other. The aura effect that scales a passive counts the base of the build, what
the passive keeps to itself and what its supports say of the aura effect, and nothing that any passive grants. -/

namespace CharacterBuild

lemma flatMap_getD {β γ : Type} (f : β → Option (List γ)) (xs : List β) :
    (xs.flatMap fun x => (f x).getD []) = (xs.filterMap f).flatten := by
  induction xs with
  | nil => rfl
  | cons x xs ih =>
    rw [List.flatMap_cons, List.filterMap_cons, ih]
    cases f x <;> rfl

variable {α : Type} [Number α] {m : Modifier α} {base ms ms' : List (Modifier α)} {c : Configuration} {s s' : SkillUse}
  {ss ss' : List SkillUse} {t : Template α} {ts : Templates α} {l : Loadout α}

/-! ## Multiples -/

/-- A modifier with its value and its range times a factor, and with nothing else changed. -/
structure Modifier.IsMultiple (factor : α) (m m' : Modifier α) : Prop where
  value : m'.value = m.value * factor
  range : ∀ type min max, m.effect = .flatDamage type min max →
    m'.effect = .flatDamage type (min * factor) (max * factor)
  effect : (∀ type min max, m.effect ≠ .flatDamage type min max) → m'.effect = m.effect
  rest : { m' with value := m.value, effect := m.effect } = m

lemma Modifier.isMultiple_scaled (m : Modifier α) (factor : α) : m.IsMultiple factor (m.scaled factor) where
  value := rfl
  range type min max h := by simp [scaled, h]
  effect h := by
    unfold scaled
    cases heffect : m.effect with
    | flatDamage type min max => exact absurd heffect (h type min max)
    | _ => rfl
  rest := rfl

/-- The modifiers of a template at a level. Each level above the first adds the same share to each of them. -/
def Template.Grown (t : Template α) (level : UInt32) (ms : List (Modifier α)) : Prop :=
  List.Forall₂ (Modifier.IsMultiple (1 + t.levelScaling * ((level.toNat - 1 : ℕ) : α))) t.modifiers ms

lemma Template.grown_atLevel (t : Template α) (level : UInt32) : t.Grown level (t.atLevel level) := by
  apply List.forall₂_map_right_iff.mpr
  apply List.forall₂_same.mpr
  exact fun m _ => m.isMultiple_scaled _

def Templates.Grant (ts : Templates α) (ss : List SupportSkill) (ms : List (Modifier α)) : Prop :=
  ∃ blocks : List (List (Modifier α)), ms = blocks.flatten ∧
    List.Forall₂ (fun e => Template.Grown e.2 e.1.level) (ss.filterMap fun s => (ts.support? s.name).map (s, ·)) blocks

lemma Templates.grant_supportModifiers (ts : Templates α) (ss : List SupportSkill) :
    ts.Grant ss (ts.supportModifiers ss) := by
  refine ⟨_, flatMap_getD _ ss, ?_⟩
  have hblocks : (ss.filterMap fun s => (ts.support? s.name).map (·.atLevel s.level)) =
      (ss.filterMap fun s => (ts.support? s.name).map (s, ·)).map fun e => e.2.atLevel e.1.level := by
    rw [List.map_filterMap]
    simp only [Option.map_map]
    rfl
  rw [hblocks]
  apply List.forall₂_map_right_iff.mpr
  apply List.forall₂_same.mpr
  exact fun e _ => e.2.grown_atLevel e.1.level

/-! ## The base of a build -/

lemma Affix.Sentence.isBuildWide {words : List String} (h : Affix.Sentence words m) : m.isBuildWide := by
  cases h <;> rfl

lemma Affix.isBuildWide_of_mem {text : String} (h : m ∈ Affix.modifiers text) : m.isBuildWide := by
  obtain ⟨line, _, hline⟩ := List.mem_filterMap.mp h
  exact (sentence_of_parse hline).isBuildWide

lemma Modifier.stat_scaled (m : Modifier α) (factor : α) : (m.scaled factor).stat = m.stat := by
  unfold scaled stat
  cases m.effect <;> rfl

structure Modifier.Lasting (P : Modifier α → Prop) : Prop where
  ofText : ∀ {text : String} {m : Modifier α}, m ∈ Affix.modifiers text → P m
  scaled : ∀ {m : Modifier α} (factor : α), P m → P (m.scaled factor)

lemma Modifier.Lasting.of_mem_talents {P : Modifier α → Prop} (hP : Lasting P) {p : TalentPage} (hm : m ∈ p.modifiers) :
    P m := by
  obtain ⟨e, _, he⟩ := List.mem_flatMap.mp hm
  unfold TalentPage.modifiersAt at he
  split at he
  · obtain ⟨granted, hgranted, rfl⟩ := List.mem_map.mp he
    exact hP.scaled _ (hP.ofText hgranted)
  · cases he

lemma Modifier.Lasting.of_mem_sources {P : Modifier α → Prop} (hP : Lasting P)
    (hm : m ∈ l.gear.flatMap Gear.modifiers ++ l.talents.flatMap TalentPage.modifiers ++ l.prisms.flatMap Prism.modifiers ++
      l.rings.flatMap Ring.modifiers ++ c.modifiers) : P m := by
  simp only [List.mem_append, List.mem_flatMap] at hm
  rcases hm with (((⟨g, _, hm⟩ | ⟨p, _, hm⟩) | ⟨p, _, hm⟩) | ⟨r, _, hm⟩) | hm
  · obtain ⟨_, _, hm⟩ := List.mem_flatMap.mp hm
    exact hP.ofText hm
  · exact hP.of_mem_talents hm
  · obtain ⟨_, _, hm⟩ := List.mem_flatMap.mp hm
    exact hP.ofText hm
  · exact hP.ofText hm
  · obtain ⟨_, _, hm⟩ := List.mem_flatMap.mp hm
    exact hP.ofText hm

lemma Modifier.lasting_isBuildWide : Lasting fun m : Modifier α => m.isBuildWide = true where
  ofText := Affix.isBuildWide_of_mem
  scaled _ h := h

lemma Loadout.baseModifiers_eq (l : Loadout α) (c : Configuration) : l.baseModifiers c =
    l.gear.flatMap Gear.modifiers ++ l.talents.flatMap TalentPage.modifiers ++ l.prisms.flatMap Prism.modifiers ++
      l.rings.flatMap Ring.modifiers ++ c.modifiers :=
  List.filter_eq_self.mpr fun _ hm => Modifier.lasting_isBuildWide.of_mem_sources hm

/-! ## The block of a passive -/

namespace Aura

def strength (base : List (Modifier α)) (c : Configuration) (ts : Templates α) (s : SkillUse) (t : Template α) : α :=
  (Pool.resolveGlobal ⟨base ++ (t.atLevel s.level).filter (!·.isBuildWide) ++ ts.supportModifiers s.supports, c⟩
    .auraEffect).multiplier

def block (base : List (Modifier α)) (c : Configuration) (ts : Templates α) (s : SkillUse) (t : Template α) :
    List (Modifier α) :=
  (t.modifiers.filter (·.isBuildWide)).map fun m =>
    let m := m.scaled (Template.levelFactor t.levelScaling s.level)
    if m.unscalable then m else m.scaled (strength base c ts s t)

def blocks (base : List (Modifier α)) (c : Configuration) (ts : Templates α) (ss : List SkillUse) :
    List (List (Modifier α)) :=
  (ss.filter (·.enabled)).filterMap fun s => (ts.passive? s.name).map (block base c ts s)

/-- A block by its factors: what the template grants at the level of the passive, and that times the aura effect of the base,
of what the passive keeps to itself and of its supports. -/
def IsBlock (base : List (Modifier α)) (c : Configuration) (ts : Templates α) (s : SkillUse) (t : Template α)
    (ms : List (Modifier α)) : Prop :=
  ∃ granted supports, t.Grown s.level granted ∧ ts.Grant s.supports supports ∧
    let pool : Pool α := ⟨base ++ granted.filter (!·.isBuildWide) ++ supports, c⟩
    List.Forall₂ (fun m m' => if m.unscalable then m' = m else m.IsMultiple (pool.resolveGlobal .auraEffect).multiplier m')
      (granted.filter (·.isBuildWide)) ms

lemma isBlock_block : IsBlock base c ts s t (block base c ts s t) := by
  refine ⟨t.atLevel s.level, ts.supportModifiers s.supports, t.grown_atLevel _, ts.grant_supportModifiers _, ?_⟩
  have hgranted : (t.atLevel s.level).filter (·.isBuildWide) =
      (t.modifiers.filter (·.isBuildWide)).map (·.scaled (Template.levelFactor t.levelScaling s.level)) := by
    rw [Template.atLevel, List.filter_map]
    rfl
  rw [hgranted]
  apply List.forall₂_map_left_iff.mpr
  apply List.forall₂_map_right_iff.mpr
  apply List.forall₂_same.mpr
  intro m _
  dsimp only
  split
  · rfl
  · exact Modifier.isMultiple_scaled _ _

lemma passiveBlock_eq :
    Loadout.passiveBlock base c ts s = ((ts.passive? s.name).map (block base c ts s)).getD [] := by
  unfold Loadout.passiveBlock
  cases ts.passive? s.name with
  | none => rfl
  | some t =>
    change ((t.modifiers.map _).filter _).map _ = (_ : List (Modifier α)).map _
    rw [List.filter_map, List.map_map]
    rfl

lemma pool_eq (l : Loadout α) (c : Configuration) (ts : Templates α) :
    l.pool c ts = l.baseModifiers c ++ (blocks (l.baseModifiers c) c ts l.passive).flatten := by
  rw [blocks, ← flatMap_getD]
  change _ ++ l.enabledPassive.flatMap _ = _ ++ l.enabledPassive.flatMap _
  congr 2
  funext s
  exact passiveBlock_eq

lemma isBuildWide_of_mem_block (h : m ∈ block base c ts s t) : m.isBuildWide := by
  obtain ⟨m, hm, rfl⟩ := List.mem_map.mp h
  dsimp only
  split <;> exact (List.mem_filter.mp hm).2

lemma isBuildWide_of_mem_pool (h : m ∈ l.pool c ts) : m.isBuildWide := by
  rw [pool_eq, List.mem_append, List.mem_flatten] at h
  rcases h with h | ⟨b, hb, h⟩
  · exact (List.mem_filter.mp h).2
  · obtain ⟨s, _, hs⟩ := List.mem_filterMap.mp hb
    obtain ⟨t, _, rfl⟩ := Option.map_eq_some_iff.mp hs
    exact isBuildWide_of_mem_block h

/-! ## What does not count -/

def counts (m : Modifier α) : Bool :=
  m.stat = .auraEffect && m.scope = .global

lemma resolveGlobal_eq (h : ms.filter counts = ms'.filter counts) :
    Pool.resolveGlobal ⟨ms, c⟩ .auraEffect = Pool.resolveGlobal ⟨ms', c⟩ .auraEffect := by
  have hmatching : ∀ ms : List (Modifier α), Pool.matching ⟨ms, c⟩ .auraEffect [.global] = ms.filter counts := by
    intro ms
    apply List.filter_congr
    intro m _
    simp [counts]
  rw [Pool.resolveGlobal, Pool.resolve, hmatching, h, ← hmatching]
  rfl

structure Alike (ts : Templates α) (s s' : SkillUse) : Prop where
  name : s.name = s'.name
  level : s.level = s'.level
  enabled : s.enabled = s'.enabled
  supports : (ts.supportModifiers s.supports).filter counts = (ts.supportModifiers s'.supports).filter counts

lemma Alike.strength_eq (h : Alike ts s s') (t : Template α) : strength base c ts s t = strength base c ts s' t := by
  unfold strength
  rw [h.level]
  congr 1
  apply resolveGlobal_eq
  rw [List.filter_append _ (ts.supportModifiers s.supports), List.filter_append _ (ts.supportModifiers s'.supports),
    h.supports]

lemma Alike.block_eq (h : Alike ts s s') : block base c ts s = block base c ts s' := by
  funext t
  rw [block, block, h.strength_eq, h.level]

lemma blocks_eq_of_alike (h : List.Forall₂ (Alike ts) ss ss') : blocks base c ts ss = blocks base c ts ss' := by
  induction h with
  | nil => rfl
  | @cons s s' ss ss' hs _ ih =>
    unfold blocks at *
    rw [List.filter_cons, List.filter_cons, ← hs.enabled]
    split
    · rw [List.filterMap_cons, List.filterMap_cons, ih, hs.name, hs.block_eq]
    · exact ih

end Aura

/-- The template without those of its build-wide modifiers whose stats are not to be kept. -/
def Template.keeping (keep : Stat → Bool) (t : Template α) : Template α :=
  { t with modifiers := t.modifiers.filter fun m => !m.isBuildWide || keep m.stat }

def Templates.keeping (keep : Stat → Bool) (ts : Templates α) : Templates α :=
  { ts with passives := ts.passives.map (·.keeping keep) }

namespace Aura

variable {keep : Stat → Bool}

omit [Number α] in
lemma passive?_keeping (name : String) : (ts.keeping keep).passive? name = (ts.passive? name).map (·.keeping keep) := by
  rw [Templates.passive?, Templates.keeping, List.find?_map]
  rfl

lemma own_keeping (level : UInt32) :
    ((t.keeping keep).atLevel level).filter (!·.isBuildWide) = (t.atLevel level).filter (!·.isBuildWide) := by
  unfold Template.atLevel Template.keeping
  rw [List.filter_map, List.filter_map, List.filter_filter]
  congr 1
  apply List.filter_congr
  intro m _
  change (!m.isBuildWide && (!m.isBuildWide || keep m.stat)) = !m.isBuildWide
  cases m.isBuildWide <;> rfl

lemma strength_keeping : strength base c (ts.keeping keep) s (t.keeping keep) = strength base c ts s t := by
  unfold strength
  rw [own_keeping]
  rfl

lemma block_keeping : block base c (ts.keeping keep) s (t.keeping keep) = (block base c ts s t).filter (keep ·.stat) := by
  unfold block
  rw [strength_keeping, List.filter_map, List.filter_filter, Template.keeping, List.filter_filter]
  congr 1
  apply List.filter_congr
  intro m _
  dsimp only [Function.comp_apply]
  split <;> simp only [Modifier.stat_scaled] <;> cases m.isBuildWide <;> simp

lemma blocks_keeping (base : List (Modifier α)) (c : Configuration) (ts : Templates α) (keep : Stat → Bool)
    (ss : List SkillUse) :
    blocks base c (ts.keeping keep) ss = (blocks base c ts ss).map (·.filter (keep ·.stat)) := by
  unfold blocks
  rw [List.map_filterMap]
  congr 1
  funext s
  rw [passive?_keeping]
  cases ts.passive? s.name with
  | none => rfl
  | some t => exact congrArg some block_keeping

end Aura

theorem passives_apart (l : Loadout α) (c : Configuration) (ts : Templates α) :
    l.baseModifiers c =
        l.gear.flatMap Gear.modifiers ++ l.talents.flatMap TalentPage.modifiers ++ l.prisms.flatMap Prism.modifiers ++
          l.rings.flatMap Ring.modifiers ++ c.modifiers ∧
      (∀ ss, { l with passive := ss }.pool c ts =
        l.baseModifiers c ++ (Aura.blocks (l.baseModifiers c) c ts ss).flatten) ∧
      (∀ s t, Aura.IsBlock (l.baseModifiers c) c ts s t (Aura.block (l.baseModifiers c) c ts s t)) ∧
      (∀ keep ss, Aura.blocks (l.baseModifiers c) c (ts.keeping keep) ss =
        (Aura.blocks (l.baseModifiers c) c ts ss).map (·.filter (keep ·.stat))) ∧
      (∀ ss ss', List.Forall₂ (Aura.Alike ts) ss ss' →
        { l with passive := ss }.pool c ts = { l with passive := ss' }.pool c ts) ∧
      ∀ m ∈ l.pool c ts, m.isBuildWide := by
  refine ⟨l.baseModifiers_eq c, fun ss => Aura.pool_eq _ c ts, fun s t => Aura.isBlock_block,
    Aura.blocks_keeping _ c ts, fun ss ss' h => ?_, ?_⟩
  · rw [Aura.pool_eq, Aura.pool_eq]
    exact congrArg (l.baseModifiers c ++ List.flatten ·) (Aura.blocks_eq_of_alike h)
  · intro m hm
    exact Aura.isBuildWide_of_mem_pool hm

example :
    let ts : Templates ℚ := ⟨[], [
      ⟨"Zeal", 0, [{ effect := .damage, value := 1 / 5 }, { effect := .auraEffect, value := 1 / 2 }]⟩,
      ⟨"Focus", 1 / 10, [{ effect := .castSpeed, value := 1 / 4 },
        { effect := .auraEffect, value := 1, target := .ownSkillOnly }]⟩]⟩
    (Aura.blocks [] .empty ts [⟨"Zeal", 1, true, []⟩, ⟨"Focus", 3, true, []⟩]).map (·.map (·.value)) =
      [[1 / 5, 1 / 2], [1 / 4 * (6 / 5) * (11 / 5)]] := by
  decide +kernel

end CharacterBuild
