import Mathlib
import CharacterBuild.Proofs.Talent.Total

/-! The points of columns. Each count is an exact sum, cut at the greatest count, and so is what a column asks for; the
cuts do not open a column that the exact sums keep shut, up to where three points for each column can be counted. -/

namespace CharacterBuild.Allocation

open Finset

variable {a : Allocation} {x y : UInt32}

def pointsIn (a : Allocation) (inside : UInt32 → Prop) [DecidablePred inside] : ℕ :=
  ∑ p ∈ a.entries.positions with inside p.x, (a.pointsAt p).toNat

section PointsIn

variable {inside outside : UInt32 → Prop} [DecidablePred inside] [DecidablePred outside]

lemma total_filter (a : Allocation) (inside : UInt32 → Prop) [DecidablePred inside] :
    Entries.total (a.entries.filter (inside ·.1.x)) = a.pointsIn inside := by
  have hmem : ∀ e ∈ a.entries.filter (inside ·.1.x), e.1 ∈ a.entries.positions.filter (inside ·.x) := by
    intro e he
    obtain ⟨he, hin⟩ := List.mem_filter.mp he
    exact mem_filter.mpr ⟨Entries.mem_positions he, of_decide_eq_true hin⟩
  rw [Entries.total_eq_sum (a.sorted.filter _) hmem, pointsIn]
  apply sum_congr rfl
  intro p hp
  rw [Entries.lookup_filter (fun p => decide (inside p.x)), if_pos (by simpa using (mem_filter.mp hp).2)]
  rfl

lemma pointsIn_mono (h : ∀ x, inside x → outside x) : a.pointsIn inside ≤ a.pointsIn outside := by
  apply sum_le_sum_of_subset
  intro p hp
  obtain ⟨hp, hin⟩ := mem_filter.mp hp
  exact mem_filter.mpr ⟨hp, h p.x hin⟩

lemma pointsIn_or (h : ∀ x, inside x → ¬ outside x) :
    a.pointsIn (fun x => inside x ∨ outside x) = a.pointsIn inside + a.pointsIn outside := by
  rw [pointsIn, filter_or, sum_union]
  · rfl
  · apply disjoint_filter.mpr
    intro p _
    exact h p.x

lemma pointsIn_congr (h : ∀ x, inside x ↔ outside x) : a.pointsIn inside = a.pointsIn outside :=
  le_antisymm (pointsIn_mono fun x => (h x).mp) (pointsIn_mono fun x => (h x).mpr)

end PointsIn

lemma toNat_saturatingSum_filter (a : Allocation) (inside : UInt32 → Prop) [DecidablePred inside] :
    (saturatingSum ((a.entries.filter (inside ·.1.x)).map (·.2))).toNat = min (a.pointsIn inside) maxCount := by
  rw [toNat_saturatingSum, List.map_map, ← total_filter]
  rfl

lemma toNat_totalPoints (a : Allocation) : a.totalPoints.toNat = min (a.pointsIn fun _ => True) maxCount := by
  rw [← toNat_saturatingSum_filter, List.filter_eq_self.mpr (by simp), totalPoints]

lemma toNat_columnPoints (a : Allocation) (x : UInt32) :
    (a.columnPoints x).toNat = min (a.pointsIn (· = x)) maxCount :=
  toNat_saturatingSum_filter a (· = x)

lemma toNat_pointsBefore_eq (a : Allocation) (x : UInt32) :
    (a.pointsBefore x).toNat = min (a.pointsIn (· < x)) maxCount :=
  toNat_saturatingSum_filter a (· < x)

lemma lt_add_one_iff (h : x.toNat < maxCount) : y < x + 1 ↔ y < x ∨ y = x := by
  have hnext : (x + 1).toNat = x.toNat + 1 := by
    apply toNat_add_one (y := UInt32.ofNat maxCount)
    exact UInt32.lt_iff_toNat_lt.mpr h
  rw [UInt32.lt_iff_toNat_lt, UInt32.lt_iff_toNat_lt, ← UInt32.toNat_inj, hnext]
  omega

lemma pointsIn_lt_add_one (h : x.toNat < maxCount) :
    a.pointsIn (· < x + 1) = a.pointsIn (· < x) + a.pointsIn (· = x) := by
  rw [← pointsIn_or fun y hy => UInt32.ne_of_lt hy]
  exact pointsIn_congr fun y => lt_add_one_iff h

lemma isUnlocked_iff : a.isUnlocked x = true ↔ min (3 * x.toNat) maxCount ≤ a.pointsIn (· < x) := by
  rw [isUnlocked, decide_eq_true_iff, UInt32.le_iff_toNat_le, toNat_saturating, toNat_pointsBefore_eq]
  change min (3 * x.toNat) maxCount ≤ _ ↔ _
  omega

theorem columns_counted (a : Allocation) (x : UInt32) :
    a.totalPoints.toNat = min (a.pointsIn fun _ => True) maxCount ∧
      (a.columnPoints x).toNat = min (a.pointsIn (· = x)) maxCount ∧
      (a.pointsBefore x).toNat = min (a.pointsIn (· < x)) maxCount ∧
      (x.toNat < maxCount →
        (a.pointsBefore (x + 1)).toNat = min ((a.pointsBefore x).toNat + (a.columnPoints x).toNat) maxCount) ∧
      (∀ y, x ≤ y → a.pointsBefore x ≤ a.pointsBefore y) ∧
      a.pointsBefore x ≤ a.totalPoints ∧
      (3 * x.toNat ≤ a.pointsIn (· < x) → a.isUnlocked x = true) ∧
      (3 * x.toNat ≤ maxCount → (a.isUnlocked x = true ↔ 3 * x.toNat ≤ a.pointsIn (· < x))) := by
  refine ⟨toNat_totalPoints a, toNat_columnPoints a x, toNat_pointsBefore_eq a x, fun hx => ?_, fun y hxy => ?_, ?_,
    fun hopen => ?_, fun hx => ?_⟩
  · rw [toNat_pointsBefore_eq, toNat_pointsBefore_eq, toNat_columnPoints, pointsIn_lt_add_one hx]
    omega
  · rw [UInt32.le_iff_toNat_le, toNat_pointsBefore_eq, toNat_pointsBefore_eq]
    exact min_le_min_right _ (pointsIn_mono fun z hz => UInt32.lt_of_lt_of_le hz hxy)
  · rw [UInt32.le_iff_toNat_le, toNat_pointsBefore_eq, toNat_totalPoints]
    exact min_le_min_right _ (pointsIn_mono fun _ _ => trivial)
  · rw [isUnlocked_iff]
    omega
  · rw [isUnlocked_iff, min_eq_left hx]

def hoard : Allocation :=
  ofEntries [(⟨0, 0⟩, 4294967295), (⟨0, 1⟩, 5), (⟨1, 0⟩, 7)]

theorem hoard_columns_counted :
    hoard.pointsIn (· < 1) = 4294967300 ∧ hoard.pointsBefore 1 = 4294967295 ∧ hoard.pointsBefore 2 = 4294967295 ∧
      (hoard.pointsBefore (1 + 1)).toNat = min ((hoard.pointsBefore 1).toNat + (hoard.columnPoints 1).toNat) maxCount ∧
      hoard.isUnlocked 1 = true ∧ hoard.isUnlocked 4294967295 = true ∧ hoard.isUnlocked 0 = true := by
  obtain ⟨_, _, _, hnext, _, _, hopen, _⟩ := columns_counted hoard 1
  refine ⟨by decide +kernel, by decide +kernel, by decide +kernel, hnext (by decide), hopen (by decide +kernel),
    by decide +kernel, ?_⟩
  exact ((columns_counted hoard 0).2.2.2.2.2.2.2 (by decide)).mpr (by decide +kernel)

end CharacterBuild.Allocation
