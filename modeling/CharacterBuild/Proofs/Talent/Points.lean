import CharacterBuild.Talent.Allocation
import Mathlib

/-! An allocation read position by position: what an update does to the points of every position, and that the points
determine the allocation. -/

namespace CharacterBuild

lemma toNat_add_one {x y : UInt32} (h : x < y) : (x + 1).toNat = x.toNat + 1 := by
  have hy := y.toNat_lt
  rw [UInt32.lt_iff_toNat_lt] at h
  rw [UInt32.toNat_add, Nat.mod_eq_of_lt]
  · rfl
  · change x.toNat + 1 < 2 ^ 32
    omega

lemma toNat_sub_one {x : UInt32} (h : x ≠ 0) : (x - 1).toNat + 1 = x.toNat := by
  have hx : 1 ≤ x.toNat := Nat.pos_of_ne_zero fun h0 => h (UInt32.toNat_inj.mp h0)
  have hle : 1 ≤ x := UInt32.le_iff_toNat_le.mpr hx
  rw [UInt32.toNat_sub_of_le _ _ hle]
  exact Nat.sub_add_cancel hx

lemma le_add_one_of_lt {x y : UInt32} (h : x < y) : x ≤ x + 1 := by
  rw [UInt32.le_iff_toNat_le, toNat_add_one h]
  exact Nat.le_succ _

lemma add_one_le_of_lt {x y : UInt32} (h : x < y) : x + 1 ≤ y := by
  rw [UInt32.le_iff_toNat_le, toNat_add_one h]
  exact UInt32.lt_iff_toNat_lt.mp h

lemma sub_one_le_of_ne_zero {x : UInt32} (h : x ≠ 0) : x - 1 ≤ x := by
  have hpred := toNat_sub_one h
  exact UInt32.le_iff_toNat_le.mpr (by omega)

namespace Entries

lemma lookup_cons (q : Position) (d : Position × UInt32) (es : Entries) :
    List.lookup q (d :: es) = if q = d.1 then some d.2 else es.lookup q := by
  obtain ⟨p, n⟩ := d
  by_cases hq : q = p
  · simp [hq]
  · rw [List.lookup_cons, beq_eq_false_iff_ne.mpr hq]
    simp [hq]

lemma lookup_put (p q : Position) (n : UInt32) (es : Entries) :
    (put p n es).lookup q = if q = p then some n else es.lookup q := by
  induction es with
  | nil => simp [put, lookup_cons]
  | cons d es ih =>
    unfold put
    split
    · rw [lookup_cons]
    · split
      · next hp =>
        rw [lookup_cons, lookup_cons, hp]
        split <;> rfl
      · next hp =>
        rw [lookup_cons, lookup_cons, ih]
        by_cases hq : q = d.1
        · simp [hq, Ne.symm hp]
        · simp [hq]

lemma lookup_filter (f : Position → Bool) (q : Position) (es : Entries) :
    List.lookup q (es.filter (f ·.1)) = if f q then es.lookup q else none := by
  induction es with
  | nil => simp
  | cons d es ih =>
    rw [List.filter_cons, lookup_cons]
    by_cases hq : q = d.1
    · subst hq
      by_cases hd : f d.1 <;> simp [hd, lookup_cons, ih]
    · by_cases hd : f d.1 <;> simp [hd, hq, lookup_cons, ih]

lemma lookup_erase (p q : Position) (es : Entries) :
    (erase p es).lookup q = if q = p then none else es.lookup q := by
  have h := lookup_filter (fun r => decide (r ≠ p)) q es
  simp only [decide_eq_true_eq, ne_eq, ite_not] at h
  exact h

lemma Sorted.mem_iff {es : Entries} (h : es.Sorted) {p : Position} {n : UInt32} :
    (p, n) ∈ es ↔ es.lookup p = some n := by
  induction es with
  | nil => simp
  | cons d es ih =>
    obtain ⟨hd, hes⟩ := List.pairwise_cons.mp h
    rw [List.mem_cons, lookup_cons]
    by_cases hp : p = d.1
    · have hne : (p, n) ∉ es := fun he => Position.ne_of_lt (hd _ he) hp.symm
      simp [hp ▸ hne, hp, Prod.ext_iff, eq_comm]
    · simp [hp, ih hes, Prod.ext_iff]

lemma Sorted.eq_of_mem_iff {es fs : Entries} (he : es.Sorted) (hf : fs.Sorted) (h : ∀ e, e ∈ es ↔ e ∈ fs) :
    es = fs := by
  have hne : ∀ {d e : Position × UInt32}, d.1 < e.1 → d ≠ e :=
    fun hlt heq => Position.ne_of_lt hlt (congrArg Prod.fst heq)
  have hperm : es.Perm fs := (List.perm_ext_iff_of_nodup (he.imp hne) (hf.imp hne)).mpr h
  refine hperm.eq_of_pairwise (fun d e _ _ hde hed => ?_) he hf
  exact absurd rfl (Position.ne_of_lt (Position.lt_trans hde hed))

end Entries

namespace Allocation

variable {a b : Allocation} {p : Position}

@[simp] lemma pointsAt_empty (p : Position) : empty.pointsAt p = 0 := rfl

@[simp] lemma pointsAt_set (a : Allocation) (p q : Position) (n : UInt32) :
    (a.set p n).pointsAt q = if q = p then n else a.pointsAt q := by
  unfold set
  split
  · next hn =>
    simp only [pointsAt, Entries.lookup_erase, hn]
    split <;> rfl
  · simp only [pointsAt, Entries.lookup_put]
    split <;> rfl

lemma mem_entries_iff {n : UInt32} : (p, n) ∈ a.entries ↔ a.pointsAt p = n ∧ n ≠ 0 := by
  constructor
  · intro h
    rw [pointsAt, a.sorted.mem_iff.mp h]
    exact ⟨rfl, a.positive _ h⟩
  · rintro ⟨hp, hn⟩
    rw [a.sorted.mem_iff]
    cases hl : a.entries.lookup p with
    | none => simp [pointsAt, hl, hn.symm] at hp
    | some m => simpa [pointsAt, hl] using hp

lemma pointsAt_of_mem {e : Position × UInt32} (h : e ∈ a.entries) : a.pointsAt e.1 = e.2 :=
  (mem_entries_iff.mp h).1

lemma mem_entries (h : a.pointsAt p ≠ 0) : (p, a.pointsAt p) ∈ a.entries :=
  mem_entries_iff.mpr ⟨rfl, h⟩

lemma ext_pointsAt (h : ∀ p, a.pointsAt p = b.pointsAt p) : a = b := by
  refine Allocation.ext (a.sorted.eq_of_mem_iff b.sorted ?_)
  rintro ⟨p, n⟩
  rw [mem_entries_iff, mem_entries_iff, h p]

lemma exists_pointsAt_ne_zero (h : a ≠ empty) : ∃ p, a.pointsAt p ≠ 0 := by
  by_contra hn
  push Not at hn
  exact h (ext_pointsAt fun p => by rw [hn p, pointsAt_empty])

lemma pointsAt_le_set {x : UInt32} (h : a.pointsAt p ≤ x) (q : Position) :
    a.pointsAt q ≤ (a.set p x).pointsAt q := by
  rw [pointsAt_set]
  split
  · next hq => exact hq ▸ h
  · exact UInt32.le_refl _

lemma set_pointsAt_le {x : UInt32} (h : x ≤ a.pointsAt p) (q : Position) :
    (a.set p x).pointsAt q ≤ a.pointsAt q := by
  rw [pointsAt_set]
  split
  · next hq => exact hq ▸ h
  · exact UInt32.le_refl _

end Allocation
end CharacterBuild
