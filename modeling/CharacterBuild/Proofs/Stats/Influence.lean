import Mathlib
import CharacterBuild.Proofs.Stats.Matching
import CharacterBuild.Proofs.Stats.Resistance

/-! What a resistance is made of: the global resistance modifiers, those of its own type and, unless it is erosion, the
elemental ones. The others may be anything and stand anywhere. -/

namespace CharacterBuild

variable {α : Type} {t t' : ResistanceType} {s : Stat} {m : Modifier α} {xs ys : List (Modifier α)}

namespace ResistanceType

def scope : ResistanceType → Scope
  | .cold => .cold
  | .lightning => .lightning
  | .fire => .fire
  | .erosion => .erosion

lemma scope_injective (h : t.scope = t'.scope) : t = t' := by
  cases t <;> cases t' <;> first | rfl | cases h

lemma scope_ne_global (t : ResistanceType) : t.scope ≠ .global := by
  cases t <;> decide

lemma scope_ne_elemental (t : ResistanceType) : t.scope ≠ .elemental := by
  cases t <;> decide

lemma mem_scopes {x : Scope} : x ∈ t.scopes ↔ x = t.scope ∨ (x = .elemental ∧ t ∈ [.cold, .lightning, .fire]) := by
  cases t <;> simp [scopes, ResistanceType.scope]

def own (t : ResistanceType) (s : Stat) (ms : List (Modifier α)) : List (Modifier α) :=
  ms.filter (·.CountsFor s t.scopes)

lemma matching_eq_own (p : Pool α) (s : Stat) (t : ResistanceType) :
    p.matching s t.scopes = t.own s p.modifiers :=
  p.matching_eq s t.scopes

end ResistanceType

structure Modifier.Affects (m : Modifier α) (t : ResistanceType) : Prop where
  stat : m.stat = .resistance ∨ m.stat = .maxResistance
  scope : m.scope = .global ∨ m.scope = t.scope ∨ (m.scope = .elemental ∧ t ∈ [.cold, .lightning, .fire])

lemma Modifier.CountsFor.affects (h : m.CountsFor s t.scopes) (hstat : s = .resistance ∨ s = .maxResistance) :
    m.Affects t where
  stat := h.1.symm ▸ hstat
  scope := h.2.imp_right ResistanceType.mem_scopes.mp

lemma Modifier.not_affects_of_elemental (h : m.scope = .elemental) : ¬ m.Affects .erosion := by
  intro haffects
  rcases haffects.scope with hscope | hscope | ⟨_, htype⟩
  · cases h.symm.trans hscope
  · cases h.symm.trans hscope
  · simp at htype

lemma Modifier.not_affects_of_single (h : m.scope = t'.scope) (hne : t ≠ t') : ¬ m.Affects t := by
  intro haffects
  rcases haffects.scope with hscope | hscope | ⟨hscope, _⟩
  · exact t'.scope_ne_global (h.symm.trans hscope)
  · exact hne (ResistanceType.scope_injective (hscope.symm.trans h))
  · exact t'.scope_ne_elemental (h.symm.trans hscope)

lemma ResistanceType.own_insert (h : ¬ m.Affects t) (hstat : s = .resistance ∨ s = .maxResistance)
    (xs ys : List (Modifier α)) : t.own s (xs ++ m :: ys) = t.own s (xs ++ ys) := by
  have hm : ¬ m.CountsFor s t.scopes := fun hm => h (hm.affects hstat)
  rw [own, own, List.filter_append, List.filter_append, List.filter_cons_of_neg (by simpa using hm)]

namespace Defenses

lemma get_eq [Number α] (p : Pool α) (baseMax : α) (t : ResistanceType) :
    (ofPool p baseMax).get t = .ofPool p baseMax t := by
  cases t <;> rfl

lemma get_congr [Number α] {c : Configuration} (baseMax : α)
    (h : ∀ s, s = .resistance ∨ s = .maxResistance → t.own s xs = t.own s ys) :
    (ofPool ⟨xs, c⟩ baseMax).get t = (ofPool ⟨ys, c⟩ baseMax).get t := by
  have hresolve : ∀ s, s = .resistance ∨ s = .maxResistance →
      Pool.resolve ⟨xs, c⟩ s t.scopes = Pool.resolve ⟨ys, c⟩ s t.scopes := by
    intro s hstat
    apply Pool.resolve_eq_of_matching
    rw [ResistanceType.matching_eq_own, ResistanceType.matching_eq_own]
    exact h s hstat
  rw [get_eq, get_eq, Resistance.ofPool, Resistance.ofPool, hresolve _ (.inl rfl), hresolve _ (.inr rfl)]

/-- A modifier that changes nothing about a resistance, wherever it is inserted. -/
def Ignores [Number α] (t : ResistanceType) (m : Modifier α) : Prop :=
  ∀ xs ys c baseMax, (ofPool ⟨xs ++ m :: ys, c⟩ baseMax).get t = (ofPool ⟨xs ++ ys, c⟩ baseMax).get t

lemma ignores_of_not_affects [Number α] (h : ¬ m.Affects t) : Ignores t m :=
  fun xs ys _ baseMax => get_congr baseMax fun _ hstat => ResistanceType.own_insert h hstat xs ys

end Defenses

lemma Resistance.percentage_of_additional {p : Pool ℚ} (h : ∀ m ∈ t.own s p.modifiers, m.additional = true) :
    percentage p s t = Number.toMillionths (100 * ((t.own s p.modifiers).map p.effectiveValue).sum) := by
  have hadditional : (t.own s p.modifiers).filter (·.additional) = t.own s p.modifiers := List.filter_eq_self.mpr h
  have hlayers : (t.own s p.modifiers).filter (!·.additional) = [] := by
    rw [List.filter_eq_nil_iff]
    intro m hm
    simp [h m hm]
  rw [percentage, Pool.additional, Pool.layers, ResistanceType.matching_eq_own, hadditional, hlayers, List.map_nil,
    List.prod_nil, mul_one, mul_comm]

namespace Defenses

theorem made_of_own_modifiers :
    (∀ (α : Type) [Number α] (xs ys : List (Modifier α)) (c : Configuration) (baseMax : α) (t : ResistanceType),
      t.own .resistance xs = t.own .resistance ys → t.own .maxResistance xs = t.own .maxResistance ys →
        (ofPool ⟨xs, c⟩ baseMax).get t = (ofPool ⟨ys, c⟩ baseMax).get t) ∧
    (∀ (α : Type) [Number α] (m : Modifier α), (∀ t, ¬ m.Affects t → Ignores t m) ∧
      (m.scope = .elemental → Ignores .erosion m) ∧ ∀ t t', m.scope = t'.scope → t ≠ t' → Ignores t m) ∧
    ∀ (p : Pool ℚ) (baseMax : ℚ) (t : ResistanceType),
      (∀ m ∈ t.own .resistance p.modifiers ++ t.own .maxResistance p.modifiers, m.additional = true) →
        RoundedTo (100 * ((t.own .resistance p.modifiers).map p.effectiveValue).sum) ((ofPool p baseMax).get t).potential ∧
        RoundedTo (100 * ((t.own .maxResistance p.modifiers).map p.effectiveValue).sum)
          (((ofPool p baseMax).get t).max - baseMax) := by
  refine ⟨fun α _ xs ys c baseMax t hresistance hmax => ?_, fun α _ m => ⟨fun t => ignores_of_not_affects, ?_, ?_⟩,
    fun p baseMax t hadditional => ?_⟩
  · refine get_congr baseMax fun s hstat => ?_
    rcases hstat with rfl | rfl
    · exact hresistance
    · exact hmax
  · exact fun h => ignores_of_not_affects (Modifier.not_affects_of_elemental h)
  · exact fun t t' h hne => ignores_of_not_affects (Modifier.not_affects_of_single h hne)
  · obtain ⟨hresistance, hmax⟩ := List.forall_mem_append.mp hadditional
    rw [get_ofPool, Resistance.percentage_of_additional hresistance, Resistance.percentage_of_additional hmax]
    refine ⟨roundedTo_toMillionths _, ?_⟩
    change RoundedTo _ (baseMax + _ - baseMax)
    rw [add_sub_cancel_left]
    exact roundedTo_toMillionths _

def ward : Modifier ℚ where
  effect := .resistance
  value := 1 / 30
  scope := .elemental
  additional := true
  per := some ⟨"Ward", 3⟩

def frostCloak : Modifier ℚ where
  effect := .resistance
  value := 2 / 5
  scope := .cold
  additional := true

def seventh : Modifier ℚ where
  effect := .maxResistance
  value := 1 / 7
  additional := true

def flameCloak : Modifier ℚ where
  effect := .resistance
  value := 1 / 2
  scope := .fire

def warded : Pool ℚ where
  modifiers := [ward, frostCloak, seventh]
  configuration := ⟨[("Ward", 2)], []⟩

def crowded : List (Modifier ℚ) :=
  [flameCloak, ward, seventh, { effect := .damage, value := 1, scope := .cold }, frostCloak]

theorem warded_made_of_own_modifiers :
    (ofPool ⟨crowded, warded.configuration⟩ 60).get .cold = (ofPool warded 60).get .cold ∧
    Ignores .cold flameCloak ∧ Ignores .erosion ward ∧ Ignores .fire frostCloak ∧
    RoundedTo (100 * (1 / 30 * 2 + 2 / 5)) ((ofPool warded 60).get .cold).potential ∧
    RoundedTo (100 * (1 / 7)) (((ofPool warded 60).get .cold).max - 60) ∧
    (ofPool warded 60).get .cold = ⟨74285714 / 10 ^ 6, 46666667 / 10 ^ 6, 46666667 / 10 ^ 6⟩ := by
  obtain ⟨hframe, hignores, hvalues⟩ := made_of_own_modifiers
  obtain ⟨hresistance, hmax⟩ := hvalues warded 60 .cold (by decide +kernel)
  have hown : (ResistanceType.own .cold .resistance warded.modifiers).map warded.effectiveValue = [1 / 30 * 2, 2 / 5] := by
    decide +kernel
  have hownMax : (ResistanceType.own .cold .maxResistance warded.modifiers).map warded.effectiveValue = [1 / 7] := by
    decide +kernel
  rw [hown] at hresistance
  rw [hownMax] at hmax
  refine ⟨hframe ℚ _ _ _ 60 .cold (by decide +kernel) (by decide +kernel), (hignores ℚ flameCloak).2.2 .cold .fire rfl ?_,
    (hignores ℚ ward).2.1 rfl, (hignores ℚ frostCloak).1 .fire ?_, ?_, ?_, by decide +kernel⟩
  · decide
  · exact fun haffects => absurd haffects.scope (by decide)
  · simpa using hresistance
  · simpa using hmax

end Defenses
end CharacterBuild
