import Mathlib
import CharacterBuild.Talent.Tree

/-! How wide a layout is. The last of the columns has no successor in 32 bits, so that a layout with a node there has no
count of its columns. -/

namespace CharacterBuild.Tree

variable {t : Tree} {n : TalentNode} {ns : List TalentNode} {k : UInt32}

def lastColumn : UInt32 := 4294967295

/-- The columns up to the last one with a node, counted without a cap. -/
def columns (ns : List TalentNode) : ℕ :=
  ((ns.map (·.position.x.toNat + 1)).max?).getD 0

lemma columns_cons : columns (n :: ns) = max (n.position.x.toNat + 1) (columns ns) := by
  rw [columns, columns, List.map_cons, List.max?_cons]
  cases (ns.map (·.position.x.toNat + 1)).max? <;> simp

lemma columns_le_iff {k : ℕ} : columns ns ≤ k ↔ ∀ n ∈ ns, n.position.x.toNat < k := by
  induction ns with
  | nil => simp [columns]
  | cons n ns ih => rw [columns_cons, max_le_iff, ih, List.forall_mem_cons, Nat.succ_le_iff]

lemma columns_eq_zero_iff : columns ns = 0 ↔ ns = [] := by
  rw [← Nat.le_zero, columns_le_iff, List.eq_nil_iff_forall_not_mem]
  simp

lemma columns_lt_iff : columns ns < 2 ^ 32 ↔ ∀ n ∈ ns, n.position.x ≠ lastColumn := by
  have hbound : columns ns < 2 ^ 32 ↔ columns ns ≤ 4294967295 := Nat.lt_succ_iff
  rw [hbound, columns_le_iff]
  refine forall₂_congr fun n _ => ?_
  have hx := n.position.x.toNat_lt
  have hlast : lastColumn.toNat = 4294967295 := rfl
  rw [ne_eq, ← UInt32.toNat_inj, hlast]
  omega

/-! ## Counting in 32 bits -/

lemma toNat_max (x y : UInt32) : (max x y).toNat = max x.toNat y.toNat := by
  change (if x ≤ y then y else x).toNat = _
  split
  · next h => exact (max_eq_right (UInt32.le_iff_toNat_le.mp h)).symm
  · next h => exact (max_eq_left (Nat.le_of_not_le (mt UInt32.le_iff_toNat_le.mpr h))).symm

instance : Std.Associative (max : UInt32 → UInt32 → UInt32) where
  assoc x y z := by simp only [← UInt32.toNat_inj, toNat_max, max_assoc]

lemma nextColumn?_eq_some_iff {p : Position} : p.nextColumn? = some k ↔ k.toNat = p.x.toNat + 1 := by
  have hx := p.x.toNat_lt
  have hk := k.toNat_lt
  have hnext : (p.x + 1).toNat = (p.x.toNat + 1) % 2 ^ 32 := UInt32.toNat_add p.x 1
  rw [Position.nextColumn?]
  split
  · next hzero =>
    rw [hzero, UInt32.toNat_zero] at hnext
    simp only [reduceCtorEq, false_iff]
    omega
  · next hne =>
    rw [← UInt32.toNat_inj, UInt32.toNat_zero] at hne
    rw [Option.some_inj, ← UInt32.toNat_inj]
    omega

lemma columnCount?_cons {s : String} : (⟨s, n :: ns⟩ : Tree).columnCount? =
    n.position.nextColumn?.bind fun j => (⟨s, ns⟩ : Tree).columnCount?.map (max j) := by
  simp only [columnCount?, List.mapM_cons]
  cases n.position.nextColumn? with
  | none => rfl
  | some j =>
    cases ns.mapM fun n => n.position.nextColumn? with
    | none => rfl
    | some ends =>
      cases hends : ends.max? with
      | none => simp [List.max?_cons, hends, ← UInt32.toNat_inj, toNat_max]
      | some m => simp [List.max?_cons, hends]

lemma columnCount?_eq_some_iff : t.columnCount? = some k ↔ k.toNat = columns t.nodes := by
  obtain ⟨s, ns⟩ := t
  induction ns generalizing k with
  | nil => simp [columnCount?, columns, ← UInt32.toNat_inj, eq_comm]
  | cons n ns ih =>
    dsimp only at ih ⊢
    rw [columnCount?_cons, columns_cons]
    simp only [Option.bind_eq_some_iff, Option.map_eq_some_iff, nextColumn?_eq_some_iff, ih]
    constructor
    · rintro ⟨j, hj, m, hm, rfl⟩
      rw [toNat_max, hj, hm]
    · intro hk
      have hsmall := hk ▸ k.toNat_lt
      obtain ⟨hj, hm⟩ := max_lt_iff.mp hsmall
      refine ⟨.ofNat (n.position.x.toNat + 1), UInt32.toNat_ofNat_of_lt' hj, .ofNat (columns ns),
        UInt32.toNat_ofNat_of_lt' hm, ?_⟩
      rw [← UInt32.toNat_inj, toNat_max, UInt32.toNat_ofNat_of_lt' hj, UInt32.toNat_ofNat_of_lt' hm, hk]

lemma columnCount?_eq_none_iff : t.columnCount? = none ↔ ∃ n ∈ t.nodes, n.position.x = lastColumn := by
  have hsome : (∃ k, t.columnCount? = some k) ↔ columns t.nodes < 2 ^ 32 := by
    simp only [columnCount?_eq_some_iff]
    exact ⟨fun ⟨k, hk⟩ => hk ▸ k.toNat_lt, fun h => ⟨.ofNat (columns t.nodes), UInt32.toNat_ofNat_of_lt' h⟩⟩
  rw [← Option.not_isSome_iff_eq_none, Option.isSome_iff_exists, hsome, columns_lt_iff]
  push Not
  rfl

lemma isLeast_columns (h : k.toNat = columns t.nodes) :
    IsLeast {k : UInt32 | ∀ n ∈ t.nodes, n.position.x < k} k := by
  simp only [IsLeast, lowerBounds, Set.mem_ofPred_eq, UInt32.lt_iff_toNat_lt, UInt32.le_iff_toNat_le, h]
  exact ⟨columns_le_iff.mp le_rfl, fun j hj => columns_le_iff.mpr hj⟩

theorem columnCount?_covers_iff (t : Tree) :
    (∀ k, t.columnCount? = some k ↔ k.toNat = columns t.nodes) ∧
      (∀ k, t.columnCount? = some k ↔ IsLeast {k : UInt32 | ∀ n ∈ t.nodes, n.position.x < k} k) ∧
      (t.columnCount? = some 0 ↔ t.nodes = []) ∧
      (t.columnCount? = none ↔ ∃ n ∈ t.nodes, n.position.x = lastColumn) := by
  refine ⟨fun k => columnCount?_eq_some_iff, fun k => ⟨fun h => ?_, fun h => ?_⟩, ?_, columnCount?_eq_none_iff⟩
  · exact isLeast_columns (columnCount?_eq_some_iff.mp h)
  · have hlast : ∀ n ∈ t.nodes, n.position.x ≠ lastColumn := by
      rintro n hn hx
      have hlt := UInt32.lt_iff_toNat_lt.mp (h.1 n hn)
      rw [hx] at hlt
      exact absurd (Nat.succ_le_of_lt hlt) k.toNat_lt.not_ge
    have hcount := UInt32.toNat_ofNat_of_lt' (columns_lt_iff.mpr hlast)
    have hleast := isLeast_columns hcount
    rw [UInt32.le_antisymm (h.2 hleast.1) (hleast.2 h.1)]
    exact columnCount?_eq_some_iff.mpr hcount
  · rw [columnCount?_eq_some_iff, ← columns_eq_zero_iff, UInt32.toNat_zero, eq_comm]

def outermost : Tree where
  name := "Outermost"
  nodes := [⟨.micro, "", ⟨lastColumn, 0⟩, 1, "", none⟩]

theorem outermost_uncounted :
    outermost.fault? = none ∧ outermost.columnCount? = none ∧ columns outermost.nodes = 4294967296 := by
  decide +kernel

end CharacterBuild.Tree
