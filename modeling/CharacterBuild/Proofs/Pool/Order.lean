import Mathlib
import CharacterBuild.Proofs.Pool.Passive
import CharacterBuild.Proofs.Stats.Total

/-! The parts of a build in another order: they make a pool of the same modifiers, in which every stat has the same total. -/

namespace CharacterBuild

section Reordered

variable {β γ : Type} {R : β → β → Prop} {xs ys : List β}

/-- The same entries in any order, each of them replaced by a related one. -/
def Reordered (R : β → β → Prop) (xs ys : List β) : Prop :=
  ∃ zs, xs.Perm zs ∧ List.Forall₂ R zs ys

namespace Reordered

lemma flatMap_perm {f g : β → List γ} (h : Reordered R xs ys) (hfg : ∀ x y, R x y → (f x).Perm (g y)) :
    (xs.flatMap f).Perm (ys.flatMap g) := by
  obtain ⟨zs, hperm, hrelated⟩ := h
  apply (hperm.flatMap_right f).trans
  clear hperm
  induction hrelated with
  | nil => exact .nil
  | cons hxy _ ih => exact (hfg _ _ hxy).append ih

lemma filter (keep : β → Bool) (h : Reordered R xs ys) (hkeep : ∀ x y, R x y → keep x = keep y) :
    Reordered R (xs.filter keep) (ys.filter keep) := by
  obtain ⟨zs, hperm, hrelated⟩ := h
  refine ⟨zs.filter keep, hperm.filter keep, List.rel_filter (fun x y hxy => ?_) hrelated⟩
  simp [hkeep x y hxy]

lemma reverse {f : β → β} (h : ∀ x, R x (f x)) (xs : List β) : Reordered R xs (xs.map f).reverse := by
  refine ⟨xs.reverse, xs.reverse_perm.symm, ?_⟩
  rw [← List.map_reverse, List.forall₂_map_right_iff, List.forall₂_same]
  exact fun x _ => h x

end Reordered
end Reordered

/-! ## Parts of a build -/

variable {α : Type} [Number α]

structure Gear.Reorders (g g' : Gear α) : Prop where
  slot : g.slot = g'.slot
  weapon : g.weapon = g'.weapon
  affixes : g.affixes.Perm g'.affixes

structure Prism.Reorders (p p' : Prism) : Prop where
  baseAffix : p.baseAffix = p'.baseAffix
  gauges : p.gauges.Perm p'.gauges

structure SkillUse.Reorders (s s' : SkillUse) : Prop where
  name : s.name = s'.name
  level : s.level = s'.level
  enabled : s.enabled = s'.enabled
  supports : s.supports.Perm s'.supports

structure Configuration.Reorders (c c' : Configuration) : Prop where
  counts : c.counts = c'.counts
  customAffixes : c.customAffixes.Perm c'.customAffixes

/-- One build has the parts of another in any order, and within each part what it has of affixes, gauges or supports. -/
structure Loadout.Reorders (l l' : Loadout α) : Prop where
  gear : Reordered Gear.Reorders l.gear l'.gear
  talents : l.talents.Perm l'.talents
  active : Reordered SkillUse.Reorders l.active l'.active
  passive : Reordered SkillUse.Reorders l.passive l'.passive
  prisms : Reordered Prism.Reorders l.prisms l'.prisms
  rings : l.rings.Perm l'.rings

/-! Every list of a build the other way round. -/

def Gear.reversed (g : Gear α) : Gear α :=
  { g with affixes := g.affixes.reverse }

def Prism.reversed (p : Prism) : Prism :=
  { p with gauges := p.gauges.reverse }

def SkillUse.reversed (s : SkillUse) : SkillUse :=
  { s with supports := s.supports.reverse }

def Configuration.reversed (c : Configuration) : Configuration :=
  { c with customAffixes := c.customAffixes.reverse }

def Loadout.reversed (l : Loadout α) : Loadout α where
  gear := (l.gear.map Gear.reversed).reverse
  talents := l.talents.reverse
  active := (l.active.map SkillUse.reversed).reverse
  passive := (l.passive.map SkillUse.reversed).reverse
  prisms := (l.prisms.map Prism.reversed).reverse
  rings := l.rings.reverse

lemma SkillUse.reorders_reversed (s : SkillUse) : s.Reorders s.reversed :=
  ⟨rfl, rfl, rfl, s.supports.reverse_perm.symm⟩

lemma Configuration.reorders_reversed (c : Configuration) : c.Reorders c.reversed :=
  ⟨rfl, c.customAffixes.reverse_perm.symm⟩

omit [Number α] in
lemma Loadout.reorders_reversed (l : Loadout α) : l.Reorders l.reversed where
  gear := .reverse (fun g => ⟨rfl, rfl, g.affixes.reverse_perm.symm⟩) l.gear
  talents := l.talents.reverse_perm.symm
  active := .reverse SkillUse.reorders_reversed l.active
  passive := .reverse SkillUse.reorders_reversed l.passive
  prisms := .reverse (fun p => ⟨rfl, p.gauges.reverse_perm.symm⟩) l.prisms
  rings := l.rings.reverse_perm.symm

lemma Gear.Reorders.modifiers {g g' : Gear α} (h : g.Reorders g') : g.modifiers.Perm g'.modifiers :=
  h.affixes.flatMap_right _

lemma Prism.Reorders.modifiers {p p' : Prism} (h : p.Reorders p') :
    (p.modifiers : List (Modifier α)).Perm p'.modifiers := by
  rw [Prism.modifiers, Prism.modifiers, h.baseAffix]
  exact ((h.gauges.map _).cons _).flatMap_right _

lemma Configuration.Reorders.modifiers {c c' : Configuration} (h : c.Reorders c') :
    (c.modifiers : List (Modifier α)).Perm c'.modifiers :=
  h.customAffixes.flatMap_right _

lemma Loadout.Reorders.baseModifiers {l l' : Loadout α} {c c' : Configuration} (h : l.Reorders l') (hc : c.Reorders c') :
    (l.baseModifiers c).Perm (l'.baseModifiers c') := by
  apply List.Perm.filter
  have hgear := h.gear.flatMap_perm (f := Gear.modifiers) fun _ _ hg => hg.modifiers
  have htalents := h.talents.flatMap_right (TalentPage.modifiers (α := α))
  have hprisms := h.prisms.flatMap_perm (f := Prism.modifiers (α := α)) fun _ _ hp => hp.modifiers
  have hrings := h.rings.flatMap_right (Ring.modifiers (α := α))
  exact (((hgear.append htalents).append hprisms).append hrings).append hc.modifiers

/-! ## Totals of a pool -/

structure Pool.Reorders (p q : Pool α) : Prop where
  modifiers : p.modifiers.Perm q.modifiers
  counts : p.configuration.counts = q.configuration.counts

namespace Pool.Reorders

lemma effectiveValue_eq {p q : Pool α} (h : p.Reorders q) : p.effectiveValue = q.effectiveValue := by
  funext m
  simp only [effectiveValue, Configuration.stackCount, h.counts]

omit [Number α] in
lemma matching {p q : Pool α} (h : p.Reorders q) (s : Stat) (scopes : List Scope) :
    (p.matching s scopes).Perm (q.matching s scopes) :=
  h.modifiers.filter _

variable {p q : Pool ℚ}

lemma resolve_eq (h : p.Reorders q) : p.resolve = q.resolve := by
  funext s scopes
  have hmatching := h.matching s scopes
  rw [Pool.resolve_eq, Pool.resolve_eq, additional, additional, layers, layers, h.effectiveValue_eq,
    ((hmatching.filter _).map _).sum_eq, ((hmatching.filter _).map _).prod_eq]

lemma resolveGlobal_eq (h : p.Reorders q) : p.resolveGlobal = q.resolveGlobal := by
  funext s
  rw [resolveGlobal, resolveGlobal, h.resolve_eq]

lemma sum_eq (h : p.Reorders q) : p.sum = q.sum := by
  funext s scopes
  rw [sum, sum, sumOf_eq_sum, sumOf_eq_sum, h.effectiveValue_eq, ((h.matching s scopes).map _).sum_eq]

end Pool.Reorders

/-! ## Passives -/

variable {l l' : Loadout ℚ} {c c' : Configuration} {s s' : SkillUse} {ts : Templates ℚ} {base base' : List (Modifier ℚ)}

lemma SkillUse.Reorders.supportModifiers {ts : Templates α} (h : s.Reorders s') :
    (ts.supportModifiers s.supports).Perm (ts.supportModifiers s'.supports) :=
  h.supports.flatMap_right _

lemma SkillUse.Reorders.block_eq (h : s.Reorders s') (hbase : base.Perm base') (hc : c.counts = c'.counts) :
    Aura.block base c ts s = Aura.block base' c' ts s' := by
  funext t
  have hpool : Pool.Reorders
      ⟨base ++ (t.atLevel s.level).filter (!·.isBuildWide) ++ ts.supportModifiers s.supports, c⟩
      ⟨base' ++ (t.atLevel s.level).filter (!·.isBuildWide) ++ ts.supportModifiers s'.supports, c'⟩ :=
    ⟨(hbase.append_right _).append h.supportModifiers, hc⟩
  have hstrength : Aura.strength base c ts s t = Aura.strength base' c' ts s' t := by
    rw [Aura.strength, Aura.strength, ← h.level, hpool.resolveGlobal_eq]
  rw [Aura.block, Aura.block, hstrength, h.level]

lemma Loadout.Reorders.pool (h : l.Reorders l') (hc : c.Reorders c') (ts : Templates ℚ) :
    (l.pool c ts).Perm (l'.pool c' ts) := by
  have hbase := h.baseModifiers hc
  have henabled := h.passive.filter (·.enabled) fun _ _ hs => hs.enabled
  apply hbase.append
  apply henabled.flatMap_perm
  intro s s' hs
  rw [Aura.passiveBlock_eq, Aura.passiveBlock_eq, hs.name, hs.block_eq hbase hc.counts]

end CharacterBuild
