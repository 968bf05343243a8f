import CharacterBuild.Proofs.Talent.Layout

/-! Chains of prerequisites. In a finite layout a chain either ends in fewer steps than there are nodes or runs into a
cycle. -/

namespace CharacterBuild.Tree

variable {t : Tree} {n : TalentNode} {p q : Position} {i j k : ℕ}

def ancestor? (t : Tree) : ℕ → Position → Option TalentNode
  | 0, p => t.nodeAt? p
  | k + 1, p => (t.ancestor? k p).bind fun n => n.prerequisite.bind t.nodeAt?

def EndsAfter (t : Tree) (k : ℕ) (p : Position) : Prop :=
  ∃ n ∈ t.ancestor? k p, n.prerequisite = none

instance : Decidable (t.EndsAfter k p) :=
  inferInstanceAs (Decidable (∃ n ∈ t.ancestor? k p, n.prerequisite = none))

def OnCycle (t : Tree) (p : Position) : Prop :=
  ∃ n k, 0 < k ∧ t.nodeAt? p = some n ∧ t.ancestor? k p = some n

def Acyclic (t : Tree) : Prop :=
  ∀ p, ¬ t.OnCycle p

lemma ancestor?_found (h : t.ancestor? k p = some n) : ∃ q, t.nodeAt? q = some n := by
  cases k with
  | zero => exact ⟨p, h⟩
  | succ k =>
    obtain ⟨m, _, hm⟩ := Option.bind_eq_some_iff.mp h
    obtain ⟨q, _, hq⟩ := Option.bind_eq_some_iff.mp hm
    exact ⟨q, hq⟩

lemma ancestor?_mem (h : t.ancestor? k p = some n) : n ∈ t.nodes := by
  obtain ⟨q, hq⟩ := ancestor?_found h
  exact nodeAt?_mem hq

lemma nodeAt?_ancestor? (h : t.ancestor? k p = some n) : t.nodeAt? n.position = some n := by
  obtain ⟨q, hq⟩ := ancestor?_found h
  rw [nodeAt?_position hq, hq]

lemma ancestor?_add (t : Tree) (j k : ℕ) (p : Position) :
    t.ancestor? (j + k) p = (t.ancestor? j p).bind fun n => t.ancestor? k n.position := by
  induction k with
  | zero =>
    cases h : t.ancestor? j p with
    | none => simp
    | some n => simpa [ancestor?, h] using (nodeAt?_ancestor? h).symm
  | succ k ih =>
    rw [← Nat.add_assoc, ancestor?, ih, Option.bind_assoc]
    rfl

lemma ancestor?_add_of_eq (h : t.ancestor? j p = some n) (k : ℕ) :
    t.ancestor? (j + k) p = t.ancestor? k n.position := by
  rw [ancestor?_add, h, Option.bind_some]

lemma ancestor?_isSome_of_le (h : (t.ancestor? k p).isSome) (hj : j ≤ k) : (t.ancestor? j p).isSome := by
  obtain ⟨d, rfl⟩ := Nat.exists_eq_add_of_le hj
  rw [ancestor?_add] at h
  exact Option.isSome_of_isSome_bind h

lemma EndsAfter.isSome (h : t.EndsAfter k p) : (t.ancestor? k p).isSome := by
  obtain ⟨n, hn, _⟩ := h
  exact Option.isSome_of_mem hn

lemma EndsAfter.nodeAt?_isSome (h : t.EndsAfter k p) : (t.nodeAt? p).isSome :=
  ancestor?_isSome_of_le h.isSome (Nat.zero_le k)

lemma EndsAfter.eq_none (h : t.EndsAfter k p) (hj : k < j) : t.ancestor? j p = none := by
  obtain ⟨n, hn, hpre⟩ := h
  have hnext : t.ancestor? (k + 1) p = none := by simp [ancestor?, Option.mem_def.mp hn, hpre]
  by_contra hsome
  have hs := ancestor?_isSome_of_le (Option.isSome_iff_ne_none.mpr hsome) hj
  simp [hnext] at hs

lemma EndsAfter.succ (h : t.EndsAfter k q) (hn : t.nodeAt? p = some n) (hq : n.prerequisite = some q) :
    t.EndsAfter (k + 1) p := by
  obtain ⟨l, hl⟩ := Option.isSome_iff_exists.mp h.nodeAt?_isSome
  obtain ⟨m, hm, hroot⟩ := h
  have hfirst : t.ancestor? 1 p = some l := by simp [ancestor?, hn, hq, hl]
  refine ⟨m, ?_, hroot⟩
  rw [Option.mem_def] at hm ⊢
  rw [Nat.add_comm, ancestor?_add_of_eq hfirst, nodeAt?_position hl, hm]

lemma OnCycle.ancestor?_isSome (h : t.OnCycle p) (j : ℕ) : (t.ancestor? j p).isSome := by
  obtain ⟨n, k, hk, hn, hcycle⟩ := h
  have hloop : ∀ m, t.ancestor? (m * k) p = some n := by
    intro m
    induction m with
    | zero => simpa [ancestor?] using hn
    | succ m ih => rw [Nat.succ_mul, ancestor?_add_of_eq ih, nodeAt?_position hn, hcycle]
  exact ancestor?_isSome_of_le (by simp [hloop j]) (Nat.le_mul_of_pos_right j hk)

lemma EndsAfter.not_onCycle (h : t.EndsAfter k p) (hn : t.ancestor? i p = some n) : ¬ t.OnCycle n.position := by
  intro hcycle
  have hs := hcycle.ancestor?_isSome (k + 1)
  rw [← ancestor?_add_of_eq hn, h.eq_none (by omega)] at hs
  simp at hs

/-- As many steps as there are nodes visit a node twice. -/
lemma exists_onCycle (h : (t.ancestor? t.nodes.length p).isSome) :
    ∃ i n, t.ancestor? i p = some n ∧ t.OnCycle n.position := by
  have hcard : (t.nodes.map some).toFinset.card < (Finset.range (t.nodes.length + 1)).card := by
    have hle := List.toFinset_card_le (t.nodes.map some)
    rw [List.length_map] at hle
    rw [Finset.card_range]
    omega
  have hmaps : ∀ i ∈ Finset.range (t.nodes.length + 1), t.ancestor? i p ∈ (t.nodes.map some).toFinset := by
    intro i hi
    obtain ⟨n, hn⟩ := Option.isSome_iff_exists.mp
      (ancestor?_isSome_of_le h (Nat.lt_succ_iff.mp (Finset.mem_range.mp hi)))
    simpa [hn] using ancestor?_mem hn
  obtain ⟨i, hi, j, hj, hne, heq⟩ := Finset.exists_ne_map_eq_of_card_lt_of_maps_to hcard hmaps
  wlog hlt : i < j generalizing i j
  · exact this j hj i hi hne.symm heq.symm (by omega)
  obtain ⟨n, hn⟩ := Option.isSome_iff_exists.mp
    (ancestor?_isSome_of_le h (Nat.lt_succ_iff.mp (Finset.mem_range.mp hi)))
  refine ⟨i, n, hn, n, j - i, by omega, nodeAt?_ancestor? hn, ?_⟩
  rw [← ancestor?_add_of_eq hn, Nat.add_sub_cancel' hlt.le, ← heq, hn]

lemma EndsAfter.lt_length (h : t.EndsAfter k p) : k < t.nodes.length := by
  by_contra hlen
  obtain ⟨i, n, hn, hcycle⟩ := exists_onCycle (ancestor?_isSome_of_le h.isSome (Nat.le_of_not_lt hlen))
  exact h.not_onCycle hn hcycle

lemma exists_deepest {held : Position → Prop} (h : ∀ p, held p → ∃ k, t.EndsAfter k p) (hsome : ∃ p, held p) :
    ∃ p k, held p ∧ t.EndsAfter k p ∧ ∀ q j, held q → t.EndsAfter j q → j ≤ k := by
  let depths : Set ℕ := {k | ∃ p, held p ∧ t.EndsAfter k p}
  have hdepths : depths.Nonempty := by
    obtain ⟨p, hp⟩ := hsome
    obtain ⟨k, hk⟩ := h p hp
    exact ⟨k, p, hp, hk⟩
  have hbdd : BddAbove depths := ⟨t.nodes.length, fun k ⟨_, _, hk⟩ => hk.lt_length.le⟩
  obtain ⟨p, hp, hk⟩ := Nat.sSup_mem hdepths hbdd
  exact ⟨p, sSup depths, hp, hk, fun q j hq hj => le_csSup hbdd ⟨q, hq, hj⟩⟩

lemma Acyclic.exists_endsAfter (h : t.Acyclic) (ht : t.Valid) (hp : (t.nodeAt? p).isSome) :
    ∃ k, t.EndsAfter k p := by
  by_contra hends
  push Not at hends
  have hall : ∀ k, (t.ancestor? k p).isSome := by
    intro k
    induction k with
    | zero => exact hp
    | succ k ih =>
      obtain ⟨n, hn⟩ := Option.isSome_iff_exists.mp ih
      cases hpre : n.prerequisite with
      | none => exact absurd ⟨n, hn, hpre⟩ (hends k)
      | some pre => simpa [ancestor?, hn, hpre] using ht.resolved n (ancestor?_mem hn) pre hpre
  obtain ⟨i, n, _, hcycle⟩ := exists_onCycle (hall t.nodes.length)
  exact h n.position hcycle

lemma acyclic_of_endsAfter (h : ∀ n ∈ t.nodes, ∃ k < t.nodes.length, t.EndsAfter k n.position) : t.Acyclic := by
  intro p hcycle
  obtain ⟨n, _, _, hn, _⟩ := id hcycle
  obtain ⟨k, _, hk⟩ := h n (nodeAt?_mem hn)
  rw [nodeAt?_position hn] at hk
  have hfree := hk.not_onCycle (show t.ancestor? 0 p = some n from hn)
  rw [nodeAt?_position hn] at hfree
  exact hfree hcycle

end CharacterBuild.Tree
