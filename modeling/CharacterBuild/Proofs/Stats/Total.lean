import Mathlib
import CharacterBuild.Number.Rational
import CharacterBuild.Stats.Aggregate

/-! The total of a stat in exact arithmetic: a sum over the additional modifiers and a product over the others. Neither
falls when a pool gains modifiers that are not negative. -/

namespace CharacterBuild

lemma sumOf_eq_sum (xs : List ℚ) : sumOf xs = xs.sum := by
  have hfold : ∀ x : ℚ, xs.foldl (· + ·) x = x + xs.sum := by
    induction xs with
    | nil => simp
    | cons y ys ih => simp [ih, add_assoc]
  rw [sumOf, hfold]
  exact zero_add xs.sum

lemma one_le_prod_of_sublist {xs ys : List ℚ} (h : xs.Sublist ys) (hone : ∀ y ∈ ys, 1 ≤ y) :
    1 ≤ xs.prod ∧ xs.prod ≤ ys.prod := by
  induction h with
  | slnil => simp
  | @cons xs ys y _ ih =>
    obtain ⟨hy, hys⟩ := List.forall_mem_cons.mp hone
    obtain ⟨hxs, hle⟩ := ih hys
    rw [List.prod_cons]
    exact ⟨hxs, hle.trans (le_mul_of_one_le_left (by linarith) hy)⟩
  | @cons_cons xs ys y _ ih =>
    obtain ⟨hy, hys⟩ := List.forall_mem_cons.mp hone
    obtain ⟨hxs, hle⟩ := ih hys
    rw [List.prod_cons, List.prod_cons]
    exact ⟨one_le_mul_of_one_le_of_one_le hy hxs, by gcongr⟩

structure Total.AtMost (t u : Total ℚ) : Prop where
  nonneg : 0 ≤ t.additive
  additive : t.additive ≤ u.additive
  one_le : 1 ≤ t.more
  more : t.more ≤ u.more

namespace Total.AtMost

variable {t u : Total ℚ}

lemma one_le_multiplier (h : t.AtMost u) : 1 ≤ t.multiplier :=
  one_le_mul_of_one_le_of_one_le (le_add_of_nonneg_right h.nonneg) h.one_le

lemma multiplier (h : t.AtMost u) : t.multiplier ≤ u.multiplier := by
  have hone := h.one_le
  have hnonneg := h.nonneg
  have hadditive := h.additive
  change (1 + t.additive) * t.more ≤ (1 + u.additive) * u.more
  gcongr
  · linarith
  · exact h.more

end Total.AtMost

namespace Pool

variable {p q : Pool ℚ} {s : Stat} {scopes : List Scope} {m : Modifier ℚ}

def additional (p : Pool ℚ) (s : Stat) (scopes : List Scope) : List ℚ :=
  ((p.matching s scopes).filter (·.additional)).map p.effectiveValue

def layers (p : Pool ℚ) (s : Stat) (scopes : List Scope) : List ℚ :=
  ((p.matching s scopes).filter (!·.additional)).map (1 + p.effectiveValue ·)

lemma foldl_add (p : Pool ℚ) (ms : List (Modifier ℚ)) (t : Total ℚ) :
    ms.foldl p.add t =
      ⟨t.additive + ((ms.filter (·.additional)).map p.effectiveValue).sum,
        t.more * ((ms.filter (!·.additional)).map (1 + p.effectiveValue ·)).prod⟩ := by
  induction ms generalizing t with
  | nil => simp
  | cons m ms ih =>
    rw [List.foldl_cons, ih]
    cases hm : m.additional with
    | true => simp [add, hm, add_assoc]
    | false => simp [add, hm, mul_assoc]

lemma resolve_eq (p : Pool ℚ) (s : Stat) (scopes : List Scope) :
    p.resolve s scopes = ⟨(p.additional s scopes).sum, (p.layers s scopes).prod⟩ := by
  rw [resolve, foldl_add]
  exact congrArg₂ Total.mk (zero_add _) (one_mul _)

lemma effectiveValue_nonneg (h : 0 ≤ m.value) : 0 ≤ p.effectiveValue m := by
  unfold effectiveValue
  split
  · next hper =>
    rw [Modifier.stackedValue, hper]
    exact mul_nonneg h (Nat.cast_nonneg _)
  · exact h

structure GrowsTo (p q : Pool ℚ) : Prop where
  sublist : p.modifiers.Sublist q.modifiers
  configuration : p.configuration = q.configuration
  nonneg : ∀ m ∈ q.modifiers, 0 ≤ m.value

namespace GrowsTo

lemma self (h : p.GrowsTo q) : q.GrowsTo q :=
  ⟨.refl _, rfl, h.nonneg⟩

lemma effectiveValue_eq (h : p.GrowsTo q) : p.effectiveValue = q.effectiveValue := by
  funext m
  rw [effectiveValue, effectiveValue, h.configuration]

lemma matching (h : p.GrowsTo q) (s : Stat) (scopes : List Scope) :
    (p.matching s scopes).Sublist (q.matching s scopes) :=
  h.sublist.filter _

lemma value_nonneg (h : p.GrowsTo q) (hm : m ∈ q.matching s scopes) : 0 ≤ q.effectiveValue m :=
  effectiveValue_nonneg (h.nonneg m (List.mem_filter.mp hm).1)

lemma resolve (h : p.GrowsTo q) (s : Stat) (scopes : List Scope) :
    (p.resolve s scopes).AtMost (q.resolve s scopes) := by
  have hadditional : (p.additional s scopes).Sublist (q.additional s scopes) := by
    rw [additional, additional, h.effectiveValue_eq]
    exact ((h.matching s scopes).filter _).map _
  have hlayers : (p.layers s scopes).Sublist (q.layers s scopes) := by
    rw [layers, layers, h.effectiveValue_eq]
    exact ((h.matching s scopes).filter _).map _
  have hnonneg : ∀ v ∈ q.additional s scopes, 0 ≤ v := by
    intro v hv
    obtain ⟨m, hm, rfl⟩ := List.mem_map.mp hv
    exact h.value_nonneg (List.mem_filter.mp hm).1
  have hone : ∀ v ∈ q.layers s scopes, 1 ≤ v := by
    intro v hv
    obtain ⟨m, hm, rfl⟩ := List.mem_map.mp hv
    exact le_add_of_nonneg_right (h.value_nonneg (List.mem_filter.mp hm).1)
  obtain ⟨hprod, hle⟩ := one_le_prod_of_sublist hlayers hone
  rw [resolve_eq, resolve_eq]
  exact ⟨List.sum_nonneg fun v hv => hnonneg v (hadditional.subset hv), hadditional.sum_le_sum hnonneg, hprod, hle⟩

lemma sum_nonneg (h : p.GrowsTo q) (s : Stat) (scopes : List Scope) : 0 ≤ p.sum s scopes := by
  rw [sum, sumOf_eq_sum, h.effectiveValue_eq]
  refine List.sum_nonneg fun v hv => ?_
  obtain ⟨m, hm, rfl⟩ := List.mem_map.mp hv
  exact h.value_nonneg ((h.matching s scopes).subset hm)

lemma sum_le (h : p.GrowsTo q) (s : Stat) (scopes : List Scope) : p.sum s scopes ≤ q.sum s scopes := by
  rw [sum, sum, sumOf_eq_sum, sumOf_eq_sum, h.effectiveValue_eq]
  refine ((h.matching s scopes).map _).sum_le_sum fun v hv => ?_
  obtain ⟨m, hm, rfl⟩ := List.mem_map.mp hv
  exact h.value_nonneg hm

end GrowsTo
end Pool
end CharacterBuild
