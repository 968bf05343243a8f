import Mathlib
import CharacterBuild.Affix.Basic
import CharacterBuild.Proofs.Number.Exact
import CharacterBuild.Proofs.Number.Rounding
import CharacterBuild.Proofs.Stats.Matching
import CharacterBuild.Proofs.Stats.Total
import CharacterBuild.Stats.Resistance

/-! What is left of a resistance lies between zero and its cap, unless modifiers lower the cap itself below zero. -/

namespace CharacterBuild

namespace Resistance

variable {potential max : ℚ}

lemma clamped_eq (potential max : ℚ) : clamped potential max = (potential ⊓ max) ⊔ 0 := by
  rw [clamped, Number.max_eq, Number.min_eq]

lemma clamped_nonneg (potential max : ℚ) : 0 ≤ clamped potential max := by
  rw [clamped_eq]
  exact le_sup_right

lemma clamped_le_iff : clamped potential max ≤ max ↔ 0 ≤ max := by
  rw [clamped_eq, sup_le_iff, and_iff_right inf_le_right]

lemma clamp?_eq_clamped_iff : Number.clamp? potential 0 max = some (clamped potential max) ↔ 0 ≤ max := by
  rw [Number.clamp?]
  by_cases h : 0 ≤ max
  · rw [if_pos h, Number.ite_eq_clamp h, clamped_eq, sup_comm]
    simp [h]
  · simp [h]

def percentage (p : Pool ℚ) (s : Stat) (t : ResistanceType) : ℚ :=
  Number.toMillionths ((p.additional s t.scopes).sum * (p.layers s t.scopes).prod * 100)

lemma toPercent_share (p : Pool ℚ) (s : Stat) (t : ResistanceType) :
    toPercent (p.resolve s t.scopes).share = percentage p s t := by
  rw [toPercent, Pool.resolve_eq]
  rfl

lemma percentage_nonneg {p : Pool ℚ} {s : Stat} {t : ResistanceType} (h : ∀ m ∈ p.matching s t.scopes, 0 ≤ m.value) :
    0 ≤ percentage p s t := by
  have hadditional : 0 ≤ (p.additional s t.scopes).sum := by
    refine List.sum_nonneg fun v hv => ?_
    obtain ⟨m, hm, rfl⟩ := List.mem_map.mp hv
    exact Pool.effectiveValue_nonneg (h m (List.mem_filter.mp hm).1)
  have hlayers : 0 ≤ (p.layers s t.scopes).prod := by
    refine List.prod_nonneg fun v hv => ?_
    obtain ⟨m, hm, rfl⟩ := List.mem_map.mp hv
    exact add_nonneg zero_le_one (Pool.effectiveValue_nonneg (h m (List.mem_filter.mp hm).1))
  apply toMillionths_nonneg
  positivity

end Resistance

namespace Defenses

open Resistance

lemma get_ofPool (p : Pool ℚ) (baseMax : ℚ) (t : ResistanceType) :
    (ofPool p baseMax).get t =
      .of (baseMax + percentage p .maxResistance t) (percentage p .resistance t) := by
  rw [← toPercent_share, ← toPercent_share]
  cases t <;> rfl

theorem within_bounds_iff (p : Pool ℚ) (baseMax : ℚ) (t : ResistanceType) :
    let r := (ofPool p baseMax).get t
    r.potential = percentage p .resistance t ∧ r.max = baseMax + percentage p .maxResistance t ∧
      r.actual = (r.potential ⊓ r.max) ⊔ 0 ∧ 0 ≤ r.actual ∧
      (Number.clamp? r.potential 0 r.max = some r.actual ↔ 0 ≤ r.max) ∧ (r.actual ≤ r.max ↔ 0 ≤ r.max) := by
  intro r
  have hr : r = .of (baseMax + percentage p .maxResistance t) (percentage p .resistance t) := get_ofPool p baseMax t
  rw [hr]
  refine ⟨rfl, rfl, clamped_eq _ _, clamped_nonneg _ _, ?_, ?_⟩
  · exact clamp?_eq_clamped_iff
  · exact clamped_le_iff

theorem le_max_of_nonneg {p : Pool ℚ} {baseMax : ℚ} (hbase : 0 ≤ baseMax)
    (h : ∀ m ∈ p.modifiers, m.stat = .maxResistance → 0 ≤ m.value) (t : ResistanceType) :
    baseMax ≤ ((ofPool p baseMax).get t).max ∧ ((ofPool p baseMax).get t).actual ≤ ((ofPool p baseMax).get t).max := by
  have hmatching : ∀ m ∈ p.matching .maxResistance t.scopes, 0 ≤ m.value := by
    intro m hm
    obtain ⟨hm, hcounts⟩ := Pool.mem_matching.mp hm
    exact h m hm hcounts.1
  have hmax : baseMax ≤ baseMax + percentage p .maxResistance t :=
    le_add_of_nonneg_right (percentage_nonneg hmatching)
  rw [get_ofPool]
  exact ⟨hmax, clamped_le_iff.mpr (hbase.trans hmax)⟩

theorem cap_lowered_below_zero : ¬ ∀ (p : Pool ℚ) (baseMax : ℚ) (t : ResistanceType), 0 ≤ baseMax →
    let r := (ofPool p baseMax).get t
    Number.clamp? r.potential 0 r.max = some r.actual ∧ 0 ≤ r.actual ∧ r.actual ≤ r.max := by
  intro hall
  obtain ⟨_, _, hle⟩ := hall ⟨Affix.modifiers "-70% max cold resistance", .empty⟩ 60 .cold (by norm_num)
  revert hle
  decide +kernel

end Defenses
end CharacterBuild
