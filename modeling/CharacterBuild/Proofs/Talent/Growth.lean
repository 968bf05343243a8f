import CharacterBuild.Proofs.Talent.Chain
import CharacterBuild.Proofs.Talent.Move
import CharacterBuild.Proofs.Talent.Total

/-! Allocations that grow point by point. They are told by what they hold alone, since the points of a legal allocation
can be put in column by column and, in a column, prerequisites first. -/

namespace CharacterBuild

def Tree.Forward (t : Tree) : Prop :=
  ∀ n ∈ t.nodes, ∀ pre ∈ n.prerequisite, pre.x ≤ n.position.x

instance (t : Tree) : Decidable t.Forward :=
  inferInstanceAs (Decidable (∀ n ∈ t.nodes, ∀ pre ∈ n.prerequisite, pre.x ≤ n.position.x))

namespace Allocation

variable {t : Tree} {a b : Allocation} {p : Position}

def Grown (a : Allocation) (t : Tree) : Prop :=
  ∃ ps : List Position, empty.play? t (ps.map .add) = some a

structure Standing (a : Allocation) (t : Tree) : Prop where
  legal : a.Legal t
  unlocked : ∀ e ∈ a.entries, a.isUnlocked e.1.x = true

instance : Decidable (a.Standing t) :=
  decidable_of_iff (a.Legal t ∧ ∀ e ∈ a.entries, a.isUnlocked e.1.x = true)
    ⟨fun ⟨h, h'⟩ => ⟨h, h'⟩, fun ⟨h, h'⟩ => ⟨h, h'⟩⟩

lemma standing_empty (t : Tree) : empty.Standing t where
  legal := legal_empty t
  unlocked _ he := absurd he List.not_mem_nil

lemma Standing.isUnlocked (h : a.Standing t) (hp : a.pointsAt p ≠ 0) : a.isUnlocked p.x = true :=
  h.unlocked (p, a.pointsAt p) (mem_entries hp)

lemma Standing.add (h : a.Standing t) (hp : a.canAllocate t p = true) :
    (a.set p (a.pointsAt p + 1)).Standing t where
  legal := (orderly_add hp).legal h.legal
  unlocked e he := by
    obtain ⟨n, _, hopen, _, hlt⟩ := canAllocate_iff.mp hp
    refine isUnlocked_mono (fun q _ => pointsAt_le_set (le_add_one_of_lt hlt) q) ?_
    by_cases heq : e.1 = p
    · exact heq ▸ hopen
    · have hpoints := pointsAt_of_mem he
      rw [pointsAt_set, if_neg heq] at hpoints
      exact h.isUnlocked (hpoints ▸ (a.set p _).positive e he)

lemma Standing.adds (h : a.Standing t) {ps : List Position} (hplay : a.play? t (ps.map .add) = some b) :
    b.Standing t := by
  induction ps generalizing a with
  | nil => exact Option.some.inj hplay ▸ h
  | cons p ps ih =>
    rw [List.map_cons, play?_cons] at hplay
    obtain ⟨c, hc, hrest⟩ := Option.bind_eq_some_iff.mp hplay
    obtain ⟨hp, rfl⟩ := allocate?_eq_some_iff.mp hc
    exact ih (h.add hp) hrest

lemma exists_last_column (hne : a ≠ empty) : ∃ p, a.pointsAt p ≠ 0 ∧ ∀ q, a.pointsAt q ≠ 0 → q.x ≤ p.x := by
  obtain ⟨q, hq⟩ := exists_pointsAt_ne_zero hne
  obtain ⟨p, hp, hmax⟩ :=
    Finset.exists_max_image a.entries.positions (·.x.toNat) ⟨q, mem_positions_iff.mpr hq⟩
  exact ⟨p, mem_positions_iff.mp hp, fun r hr => UInt32.le_iff_toNat_le.mpr (hmax r (mem_positions_iff.mpr hr))⟩

structure Free (a : Allocation) (t : Tree) (p : Position) : Prop where
  held : a.pointsAt p ≠ 0
  last : ∀ q, a.pointsAt q ≠ 0 → q.x ≤ p.x
  unrequired : ∀ q n, a.pointsAt q ≠ 0 → t.nodeAt? q = some n → n.prerequisite ≠ some p

lemma Legal.exists_free (ht : t.Valid) (hf : t.Forward) (hac : t.Acyclic) (h : a.Legal t) (hne : a ≠ empty) :
    ∃ p, a.Free t p := by
  obtain ⟨r, hr, hlast⟩ := exists_last_column hne
  have hends : ∀ p, a.pointsAt p ≠ 0 ∧ p.x = r.x → ∃ k, t.EndsAfter k p := by
    rintro p ⟨hp, _⟩
    obtain ⟨n, hn, _⟩ := legal_iff.mp h p hp
    exact hac.exists_endsAfter ht (by simp [hn])
  obtain ⟨p, k, ⟨hp, hpx⟩, hk, hdeepest⟩ := Tree.exists_deepest hends ⟨r, hr, rfl⟩
  refine ⟨p, hp, fun q hq => hpx ▸ hlast q hq, fun q n hq hn hpre => ?_⟩
  have hcolumn : p.x ≤ q.x := Tree.nodeAt?_position hn ▸ hf n (Tree.nodeAt?_mem hn) p hpre
  have hqx : q.x = r.x := UInt32.le_antisymm (hlast q hq) (hpx ▸ hcolumn)
  have hdeeper := hdeepest q (k + 1) ⟨hq, hqx⟩ (hk.succ hn hpre)
  omega

lemma Free.isUnlocked (h : a.Free t p) (x : UInt32) {q : Position} (hq : a.pointsAt q ≠ 0)
    (hopen : a.isUnlocked q.x = true) : (a.set p x).isUnlocked q.x = true := by
  refine isUnlocked_mono (fun r hr => ?_) hopen
  have hne : r ≠ p := by
    rintro rfl
    exact UInt32.not_lt.mpr (h.last q hq) hr
  rw [pointsAt_set, if_neg hne]
  exact UInt32.le_refl _

lemma Free.isSatisfied (h : a.Free t p) (x : UInt32) {q : Position} {n : TalentNode} (hq : a.pointsAt q ≠ 0)
    (hn : t.nodeAt? q = some n) (hsat : a.isSatisfied t n.prerequisite = true) :
    (a.set p x).isSatisfied t n.prerequisite = true := by
  rw [isSatisfied_iff] at *
  intro pre hpre
  obtain ⟨k, hk, hfull⟩ := hsat pre hpre
  have hne : pre ≠ p := by
    rintro rfl
    exact h.unrequired q n hq hn hpre
  exact ⟨k, hk, by rwa [pointsAt_set, if_neg hne]⟩

lemma Standing.drop_free (h : a.Standing t) (hp : a.Free t p) : (a.set p (a.pointsAt p - 1)).Standing t := by
  have hle : ∀ q, (a.set p (a.pointsAt p - 1)).pointsAt q ≤ a.pointsAt q :=
    set_pointsAt_le (sub_one_le_of_ne_zero hp.held)
  have hheld : ∀ q, (a.set p (a.pointsAt p - 1)).pointsAt q ≠ 0 → a.pointsAt q ≠ 0 :=
    fun q hq h0 => hq (UInt32.le_zero_iff.mp (h0 ▸ hle q))
  constructor
  · rw [legal_iff]
    intro q hq
    obtain ⟨n, hn, hcap, hsat⟩ := legal_iff.mp h.legal q (hheld q hq)
    exact ⟨n, hn, UInt32.le_trans (hle q) hcap, hp.isSatisfied _ (hheld q hq) hn hsat⟩
  · intro e he
    have hq := hheld e.1 (pointsAt_of_mem he ▸ (a.set p _).positive e he)
    exact hp.isUnlocked _ hq (h.isUnlocked hq)

lemma Standing.allocate_back (h : a.Standing t) (hp : a.Free t p) :
    (a.set p (a.pointsAt p - 1)).allocate? t p = some a := by
  obtain ⟨n, hn, hcap, hsat⟩ := legal_iff.mp h.legal p hp.held
  have hpred := toNat_sub_one hp.held
  have hlt : a.pointsAt p - 1 < a.pointsAt p := UInt32.lt_iff_toNat_lt.mpr (by omega)
  refine allocate?_eq_some_iff.mpr ⟨canAllocate_iff.mpr ⟨n, hn, ?_, ?_, ?_⟩, ext_pointsAt fun q => ?_⟩
  · exact hp.isUnlocked _ hp.held (h.isUnlocked hp.held)
  · exact hp.isSatisfied _ hp.held hn hsat
  · rw [pointsAt_set, if_pos rfl]
    exact UInt32.lt_of_lt_of_le hlt hcap
  · by_cases hq : q = p <;> simp [hq]

lemma Standing.grown (ht : t.Valid) (hf : t.Forward) (hac : t.Acyclic) (h : a.Standing t) : a.Grown t := by
  induction a using drop_induction with
  | hempty => exact ⟨[], rfl⟩
  | hdrop a hne ih =>
    -- the point that is free to go first is the one to put in last
    obtain ⟨p, hp⟩ := h.legal.exists_free ht hf hac hne
    obtain ⟨ps, hplay⟩ := ih p hp.held (h.drop_free hp)
    refine ⟨ps ++ [p], ?_⟩
    rw [List.map_append, play?_append, hplay]
    simpa using h.allocate_back hp

theorem grown_iff_standing (t : Tree) (a : Allocation) :
    (a.Grown t → a.Standing t) ∧
      (t.fault? = none → t.Forward → t.Acyclic → (a.Grown t ↔ a.Standing t)) := by
  have honly : a.Grown t → a.Standing t := fun ⟨_, hplay⟩ => (standing_empty t).adds hplay
  exact ⟨honly, fun ht hf hac => ⟨honly, fun h => h.grown (Tree.fault?_eq_none_iff.mp ht) hf hac⟩⟩

theorem climbed_grown :
    Tree.ladder.fault? = none ∧ Tree.ladder.Forward ∧ Tree.ladder.Acyclic ∧
      climbed.Standing Tree.ladder ∧ climbed.Grown Tree.ladder := by
  have ht : Tree.ladder.fault? = none := by decide
  have hf : Tree.ladder.Forward := by decide
  have hac : Tree.ladder.Acyclic := Tree.acyclic_of_endsAfter (by decide)
  have hs : climbed.Standing Tree.ladder := by decide
  exact ⟨ht, hf, hac, hs, ((grown_iff_standing Tree.ladder climbed).2 ht hf hac).mpr hs⟩

end Allocation
end CharacterBuild
