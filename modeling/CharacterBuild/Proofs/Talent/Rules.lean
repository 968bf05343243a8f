import CharacterBuild.Proofs.Talent.Layout
import CharacterBuild.Proofs.Talent.Points

namespace CharacterBuild.Allocation

variable {t : Tree} {a b : Allocation} {p : Position}

lemma isSatisfied_iff {required : Option Position} :
    a.isSatisfied t required = true ↔
      ∀ pre, required = some pre → ∃ n, t.nodeAt? pre = some n ∧ n.maxPoints ≤ a.pointsAt pre := by
  cases required with
  | none => simp [isSatisfied]
  | some pre => cases h : t.nodeAt? pre <;> simp [isSatisfied, h]

lemma isSatisfied_mono {required : Option Position} (h : ∀ p, a.pointsAt p ≤ b.pointsAt p)
    (ha : a.isSatisfied t required = true) : b.isSatisfied t required = true := by
  rw [isSatisfied_iff] at *
  intro pre hpre
  obtain ⟨n, hn, hle⟩ := ha pre hpre
  exact ⟨n, hn, UInt32.le_trans hle (h pre)⟩

lemma canAllocate_iff :
    a.canAllocate t p = true ↔ ∃ n, t.nodeAt? p = some n ∧ a.isUnlocked p.x = true ∧
      a.isSatisfied t n.prerequisite = true ∧ a.pointsAt p < n.maxPoints := by
  cases h : t.nodeAt? p with
  | none => simp [canAllocate, h]
  | some n => simp [canAllocate, h, and_assoc]

lemma canDeallocate_iff :
    a.canDeallocate t p = true ↔ ∃ n, t.nodeAt? p = some n ∧ a.pointsAt p ≠ 0 ∧
      (n.maxPoints ≤ a.pointsAt p → ∀ d ∈ t.dependents p, a.pointsAt d.position = 0) := by
  cases h : t.nodeAt? p with
  | none => simp [canDeallocate, h]
  | some n =>
    simp only [canDeallocate, h, Bool.and_eq_true, bne_iff_ne, Bool.not_eq_true', Bool.and_eq_false_iff,
      List.any_eq_false, decide_eq_false_iff_not, Option.some.injEq, exists_eq_left', ne_eq, not_not]
    tauto

lemma allocate?_eq_some_iff :
    a.allocate? t p = some b ↔ a.canAllocate t p = true ∧ b = a.set p (a.pointsAt p + 1) := by
  rw [allocate?]
  split
  · next h => simp [h, eq_comm (a := b)]
  · next h => simp [h]

lemma deallocate?_eq_some_iff :
    a.deallocate? t p = some b ↔ a.canDeallocate t p = true ∧ b = a.set p (a.pointsAt p - 1) := by
  rw [deallocate?]
  split
  · next h => simp [h, eq_comm (a := b)]
  · next h => simp [h]

end CharacterBuild.Allocation
