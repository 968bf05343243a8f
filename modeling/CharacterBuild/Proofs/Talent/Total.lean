import CharacterBuild.Proofs.Talent.Points

namespace CharacterBuild

open Finset

lemma toNat_saturating (n : ℕ) : (saturating n).toNat = min n maxCount := by
  have h : min n maxCount < 2 ^ 32 := (min_le_right _ _).trans_lt (by decide)
  exact UInt32.toNat_ofNat_of_lt' h

lemma toNat_saturatingSum (ns : List UInt32) :
    (saturatingSum ns).toNat = min (ns.map (·.toNat)).sum maxCount := by
  have h : ∀ start : UInt32,
      (ns.foldl (fun total n => saturating (total.toNat + n.toNat)) start).toNat =
        min (start.toNat + (ns.map (·.toNat)).sum) maxCount := by
    induction ns with
    | nil =>
      intro start
      have hs : start.toNat ≤ maxCount := Nat.le_pred_of_lt start.toNat_lt
      simpa using hs
    | cons n ns ih =>
      intro start
      rw [List.foldl_cons, ih, toNat_saturating, List.map_cons, List.sum_cons]
      omega
  simpa [saturatingSum] using h 0

namespace Entries

def total (es : Entries) : ℕ :=
  (es.map (·.2.toNat)).sum

def positions (es : Entries) : Finset Position :=
  (es.map (·.1)).toFinset

lemma mem_positions {es : Entries} {e : Position × UInt32} (h : e ∈ es) : e.1 ∈ es.positions :=
  List.mem_toFinset.mpr (List.mem_map_of_mem h)

lemma total_eq_sum {es : Entries} (h : es.Sorted) {s : Finset Position} (hs : ∀ e ∈ es, e.1 ∈ s) :
    es.total = ∑ p ∈ s, ((es.lookup p).getD 0).toNat := by
  induction es with
  | nil => simp [total]
  | cons d es ih =>
    obtain ⟨hd, hes⟩ := List.pairwise_cons.mp h
    have hnone : es.lookup d.1 = none := by
      rw [List.lookup_eq_none_iff]
      intro e he
      exact bne_iff_ne.mpr (Position.ne_of_lt (hd e he))
    have hsplit : ∀ p ∈ s, ((List.lookup p (d :: es)).getD 0).toNat =
        (if p = d.1 then d.2.toNat else 0) + ((es.lookup p).getD 0).toNat := by
      intro p _
      rw [lookup_cons]
      by_cases hp : p = d.1 <;> simp [hp, hnone]
    rw [sum_congr rfl hsplit, sum_add_distrib, sum_ite_eq', if_pos (hs d (.head _)),
      ← ih hes fun e he => hs e (.tail _ he)]
    simp [total]

lemma total_mono {es fs : Entries} (he : es.Sorted) (hf : fs.Sorted)
    (h : ∀ p, (es.lookup p).getD 0 ≤ (fs.lookup p).getD 0) : es.total ≤ fs.total := by
  rw [total_eq_sum he fun e h => mem_union_left fs.positions (mem_positions h),
    total_eq_sum hf fun e h => mem_union_right es.positions (mem_positions h)]
  exact sum_le_sum fun p _ => UInt32.le_iff_toNat_le.mp (h p)

end Entries

namespace Allocation

variable {a b : Allocation} {x : UInt32}

lemma mem_positions_iff {p : Position} : p ∈ a.entries.positions ↔ a.pointsAt p ≠ 0 := by
  constructor
  · intro hp
    obtain ⟨e, he, rfl⟩ := List.mem_map.mp (List.mem_toFinset.mp hp)
    exact pointsAt_of_mem he ▸ a.positive e he
  · exact fun hp => Entries.mem_positions (mem_entries hp)

lemma toNat_pointsBefore (a : Allocation) (x : UInt32) :
    (a.pointsBefore x).toNat = min (Entries.total (a.entries.filter (·.1.x < x))) maxCount := by
  rw [pointsBefore, toNat_saturatingSum, List.map_map]
  rfl

lemma pointsBefore_mono (h : ∀ p, p.x < x → a.pointsAt p ≤ b.pointsAt p) : a.pointsBefore x ≤ b.pointsBefore x := by
  have hle : Entries.total (a.entries.filter (·.1.x < x)) ≤ Entries.total (b.entries.filter (·.1.x < x)) := by
    refine Entries.total_mono (a.sorted.filter _) (b.sorted.filter _) fun p => ?_
    rw [Entries.lookup_filter (fun p => decide (p.x < x)), Entries.lookup_filter (fun p => decide (p.x < x))]
    by_cases hp : p.x < x
    · simpa [hp, pointsAt] using h p hp
    · simp [hp]
  rw [UInt32.le_iff_toNat_le, toNat_pointsBefore, toNat_pointsBefore]
  exact min_le_min_right _ hle

lemma isUnlocked_mono (h : ∀ p, p.x < x → a.pointsAt p ≤ b.pointsAt p) (ha : a.isUnlocked x = true) :
    b.isUnlocked x = true := by
  simp only [isUnlocked, decide_eq_true_eq] at *
  exact UInt32.le_trans ha (pointsBefore_mono h)

lemma total_set (a : Allocation) (p : Position) (n : UInt32) :
    (a.set p n).entries.total + (a.pointsAt p).toNat = a.entries.total + n.toNat := by
  let s := insert p (a.entries.positions ∪ (a.set p n).entries.positions)
  have hp : p ∈ s := mem_insert_self _ _
  have ha : a.entries.total = ∑ q ∈ s, (a.pointsAt q).toNat :=
    Entries.total_eq_sum a.sorted fun e he => by simp [s, Entries.mem_positions he]
  have hset : (a.set p n).entries.total = ∑ q ∈ s, ((a.set p n).pointsAt q).toNat :=
    Entries.total_eq_sum (a.set p n).sorted fun e he => by simp [s, Entries.mem_positions he]
  have hrest : ∑ q ∈ s.erase p, ((a.set p n).pointsAt q).toNat = ∑ q ∈ s.erase p, (a.pointsAt q).toNat :=
    sum_congr rfl fun q hq => by simp [ne_of_mem_erase hq]
  have hold := add_sum_erase s (fun q => (a.pointsAt q).toNat) hp
  have hnew := add_sum_erase s (fun q => ((a.set p n).pointsAt q).toNat) hp
  simp only [pointsAt_set, if_true] at hnew hrest
  simp only [pointsAt_set] at hset
  omega

lemma total_drop {p : Position} (h : a.pointsAt p ≠ 0) :
    (a.set p (a.pointsAt p - 1)).entries.total + 1 = a.entries.total := by
  have hset := total_set a p (a.pointsAt p - 1)
  have hpred := toNat_sub_one h
  omega

lemma drop_induction {motive : Allocation → Prop} (hempty : motive empty)
    (hdrop : ∀ a, a ≠ empty → (∀ p, a.pointsAt p ≠ 0 → motive (a.set p (a.pointsAt p - 1))) → motive a)
    (a : Allocation) : motive a := by
  induction hN : a.entries.total using Nat.strong_induction_on generalizing a with
  | _ N ih =>
    by_cases ha : a = empty
    · exact ha ▸ hempty
    · refine hdrop a ha fun p hp => ih _ ?_ _ rfl
      have hless := total_drop hp
      omega

end Allocation
end CharacterBuild
