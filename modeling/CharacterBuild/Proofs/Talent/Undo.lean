import CharacterBuild.Proofs.Talent.Move

namespace CharacterBuild

namespace Allocation

variable {t : Tree} {a b : Allocation} {p : Position}

/-- One point more fills the node, and a node that requires it is in use already. -/
def Seals (a : Allocation) (t : Tree) (p : Position) : Prop :=
  ∃ n ∈ t.nodeAt? p, a.pointsAt p + 1 = n.maxPoints ∧ ∃ d ∈ t.dependents p, a.pointsAt d.position ≠ 0

instance : Decidable (a.Seals t p) :=
  inferInstanceAs (Decidable (∃ n ∈ t.nodeAt? p, a.pointsAt p + 1 = n.maxPoints ∧
    ∃ d ∈ t.dependents p, a.pointsAt d.position ≠ 0))

lemma set_back (a : Allocation) (p : Position) : (a.set p (a.pointsAt p + 1)).set p (a.pointsAt p + 1 - 1) = a := by
  refine ext_pointsAt fun q => ?_
  by_cases hq : q = p <;> simp [hq]

lemma dependent_ne (ht : t.Valid) (h : a.canAllocate t p = true) {d : TalentNode} (hd : d ∈ t.dependents p) :
    d.position ≠ p := by
  rintro rfl
  obtain ⟨n, hn, _, hsat, hlt⟩ := canAllocate_iff.mp h
  obtain ⟨hmem, hpre⟩ := Tree.mem_dependents.mp hd
  obtain rfl : d = n := by simpa [ht.nodeAt?_of_mem hmem] using hn
  -- a node that requires itself would have to be full before its first point
  obtain ⟨k, hk, hfull⟩ := isSatisfied_iff.mp hsat _ hpre
  obtain rfl : d = k := by simpa [hn] using hk
  exact UInt32.not_lt.mpr hfull hlt

lemma canDeallocate_add_iff (ht : t.Valid) (h : a.canAllocate t p = true) :
    (a.set p (a.pointsAt p + 1)).canDeallocate t p = true ↔ ¬ a.Seals t p := by
  obtain ⟨n, hn, _, _, hlt⟩ := canAllocate_iff.mp h
  have hstep := toNat_add_one hlt
  have hpoints : (a.set p (a.pointsAt p + 1)).pointsAt p = a.pointsAt p + 1 := by simp
  have hrest : ∀ d ∈ t.dependents p, (a.set p (a.pointsAt p + 1)).pointsAt d.position = a.pointsAt d.position :=
    fun d hd => by simp [dependent_ne ht h hd]
  rw [canDeallocate_iff, hpoints]
  constructor
  · rintro ⟨k, hk, _, hlock⟩ ⟨l, hl, hfull, d, hd, hheld⟩
    obtain rfl : k = l := by simpa [hk] using hl
    exact hheld (hrest d hd ▸ hlock (hfull ▸ UInt32.le_refl _) d hd)
  · intro hseals
    refine ⟨n, hn, ?_, fun hfull d hd => ?_⟩
    · intro h0
      have h0' := congrArg UInt32.toNat h0
      rw [hstep] at h0'
      exact Nat.succ_ne_zero _ h0'
    · rw [hrest d hd]
      by_contra hheld
      exact hseals ⟨n, hn, UInt32.le_antisymm (add_one_le_of_lt hlt) hfull, d, hd, hheld⟩

lemma Legal.not_seals (ht : t.Valid) (ha : a.Legal t) (h : a.canAllocate t p = true) : ¬ a.Seals t p := by
  rintro ⟨_, _, _, d, hd, hheld⟩
  obtain ⟨n, hn, _, _, hlt⟩ := canAllocate_iff.mp h
  obtain ⟨hmem, hpre⟩ := Tree.mem_dependents.mp hd
  obtain ⟨k, hk, _, hsat⟩ := legal_iff.mp ha d.position hheld
  obtain rfl : d = k := by simpa [ht.nodeAt?_of_mem hmem] using hk
  obtain ⟨l, hl, hfull⟩ := isSatisfied_iff.mp hsat p hpre
  obtain rfl : n = l := by simpa [hn] using hl
  exact UInt32.not_lt.mpr hfull hlt

theorem deallocate?_allocate? (ht : t.fault? = none) (h : a.allocate? t p = some b) :
    (a.Seals t p → b.deallocate? t p = none ∧ b.move t (.drop p) = b) ∧
      (¬ a.Seals t p → b.deallocate? t p = some a) ∧
      ∀ ms, empty.play t ms = a → ¬ a.Seals t p ∧ b.deallocate? t p = some a := by
  have hv := Tree.fault?_eq_none_iff.mp ht
  obtain ⟨hadd, rfl⟩ := allocate?_eq_some_iff.mp h
  have hback : ¬ a.Seals t p → (a.set p (a.pointsAt p + 1)).deallocate? t p = some a := by
    intro hseals
    refine deallocate?_eq_some_iff.mpr ⟨(canDeallocate_add_iff hv hadd).mpr hseals, ?_⟩
    have hpoints : (a.set p (a.pointsAt p + 1)).pointsAt p = a.pointsAt p + 1 := by simp
    rw [hpoints, set_back]
  refine ⟨fun hseals => ?_, hback, ?_⟩
  · have hstays : (a.set p (a.pointsAt p + 1)).deallocate? t p = none :=
      if_neg fun hdrop => (canDeallocate_add_iff hv hadd).mp hdrop hseals
    exact ⟨hstays, by simp [move, hstays]⟩
  · rintro ms rfl
    have hlegal : (empty.play t ms).Legal t := play_invariant (fun _ _ _ h => h.legal) (legal_empty t) ms
    have hseals := hlegal.not_seals hv hadd
    exact ⟨hseals, hback hseals⟩

end Allocation

def Allocation.propped : Allocation :=
  ofEntries [(⟨0, 0⟩, 2), (⟨1, 1⟩, 1)]

theorem Allocation.propped_sealed :
    Tree.ladder.fault? = none ∧
      propped.allocate? Tree.ladder ⟨0, 0⟩ = some (propped.set ⟨0, 0⟩ 3) ∧ propped.Seals Tree.ladder ⟨0, 0⟩ ∧
      (propped.set ⟨0, 0⟩ 3).deallocate? Tree.ladder ⟨0, 0⟩ = none ∧
      (empty.set ⟨0, 0⟩ 1).deallocate? Tree.ladder ⟨0, 0⟩ = some empty := by
  have ht : Tree.ladder.fault? = none := by decide
  have hadd : propped.allocate? Tree.ladder ⟨0, 0⟩ = some (propped.set ⟨0, 0⟩ 3) := by decide
  have hfirst : empty.allocate? Tree.ladder ⟨0, 0⟩ = some (empty.set ⟨0, 0⟩ 1) := by decide
  have hseals : propped.Seals Tree.ladder ⟨0, 0⟩ := by decide
  exact ⟨ht, hadd, hseals, ((deallocate?_allocate? ht hadd).1 hseals).1,
    ((deallocate?_allocate? ht hfirst).2.2 [] rfl).2⟩

end CharacterBuild
