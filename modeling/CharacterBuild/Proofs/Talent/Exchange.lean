import CharacterBuild.Proofs.Talent.Move
import CharacterBuild.Proofs.Talent.Total

namespace CharacterBuild

namespace Allocation

variable {t : Tree} {a b c : Allocation} {m m' : Move} {p q : Position}

lemma canAllocate_mono (h : ∀ q, a.pointsAt q ≤ b.pointsAt q) (hp : a.pointsAt p = b.pointsAt p)
    (ha : a.canAllocate t p = true) : b.canAllocate t p = true := by
  obtain ⟨n, hn, hopen, hsat, hlt⟩ := canAllocate_iff.mp ha
  exact canAllocate_iff.mpr ⟨n, hn, isUnlocked_mono (fun q _ => h q) hopen, isSatisfied_mono h hsat, hp ▸ hlt⟩

lemma canDeallocate_anti (h : ∀ q, b.pointsAt q ≤ a.pointsAt q) (hp : b.pointsAt p = a.pointsAt p)
    (ha : a.canDeallocate t p = true) : b.canDeallocate t p = true := by
  obtain ⟨n, hn, hheld, hlock⟩ := canDeallocate_iff.mp ha
  refine canDeallocate_iff.mpr ⟨n, hn, hp ▸ hheld, fun hfull d hd => ?_⟩
  have hzero : a.pointsAt d.position = 0 := hlock (hp ▸ hfull) d hd
  exact UInt32.le_zero_iff.mp (hzero ▸ h d.position)

lemma set_comm (a : Allocation) (hpq : p ≠ q) (m n : UInt32) : (a.set p m).set q n = (a.set q n).set p m := by
  refine ext_pointsAt fun r => ?_
  simp only [pointsAt_set]
  by_cases hq : r = q
  · simp [hq, hpq.symm]
  · simp [hq]

lemma play?_pair (hm : a.move? t m = some b) (hm' : b.move? t m' = some c) : a.play? t [m, m'] = some c := by
  rw [play?_cons, hm, Option.bind_some, play?_cons, hm']
  rfl

lemma play?_add_add (hpq : p ≠ q) (hp : a.canAllocate t p = true) (hq : a.canAllocate t q = true) :
    a.play? t [.add p, .add q] = some ((a.set p (a.pointsAt p + 1)).set q (a.pointsAt q + 1)) := by
  obtain ⟨_, _, _, _, hlt⟩ := canAllocate_iff.mp hp
  have hsame : (a.set p (a.pointsAt p + 1)).pointsAt q = a.pointsAt q := by simp [hpq.symm]
  have hsecond : (a.set p (a.pointsAt p + 1)).canAllocate t q = true :=
    canAllocate_mono (pointsAt_le_set (le_add_one_of_lt hlt)) hsame.symm hq
  exact play?_pair (allocate?_eq_some_iff.mpr ⟨hp, rfl⟩) (allocate?_eq_some_iff.mpr ⟨hsecond, by rw [hsame]⟩)

lemma play?_drop_drop (hpq : p ≠ q) (hp : a.canDeallocate t p = true) (hq : a.canDeallocate t q = true) :
    a.play? t [.drop p, .drop q] = some ((a.set p (a.pointsAt p - 1)).set q (a.pointsAt q - 1)) := by
  obtain ⟨_, _, hheld, _⟩ := canDeallocate_iff.mp hp
  have hsame : (a.set p (a.pointsAt p - 1)).pointsAt q = a.pointsAt q := by simp [hpq.symm]
  have hsecond : (a.set p (a.pointsAt p - 1)).canDeallocate t q = true :=
    canDeallocate_anti (set_pointsAt_le (sub_one_le_of_ne_zero hheld)) hsame hq
  exact play?_pair (deallocate?_eq_some_iff.mpr ⟨hp, rfl⟩) (deallocate?_eq_some_iff.mpr ⟨hsecond, by rw [hsame]⟩)

theorem moves_commute (t : Tree) (a : Allocation) :
    (∀ (b : Allocation) p, (∀ q, a.pointsAt q ≤ b.pointsAt q) → a.pointsAt p = b.pointsAt p → a.canAllocate t p = true →
        b.canAllocate t p = true) ∧
      (∀ p q, p ≠ q → (a.allocate? t p).isSome → (a.allocate? t q).isSome →
        ∃ b, a.play? t [.add p, .add q] = some b ∧ a.play? t [.add q, .add p] = some b) ∧
      ∀ p q, p ≠ q → (a.deallocate? t p).isSome → (a.deallocate? t q).isSome →
        ∃ b, a.play? t [.drop p, .drop q] = some b ∧ a.play? t [.drop q, .drop p] = some b := by
  refine ⟨fun b p h hp ha => canAllocate_mono h hp ha, fun p q hpq hp hq => ?_, fun p q hpq hp hq => ?_⟩
  · obtain ⟨_, hp⟩ := Option.isSome_iff_exists.mp hp
    obtain ⟨_, hq⟩ := Option.isSome_iff_exists.mp hq
    have hcp := (allocate?_eq_some_iff.mp hp).1
    have hcq := (allocate?_eq_some_iff.mp hq).1
    exact ⟨_, play?_add_add hpq hcp hcq, set_comm a hpq _ _ ▸ play?_add_add hpq.symm hcq hcp⟩
  · obtain ⟨_, hp⟩ := Option.isSome_iff_exists.mp hp
    obtain ⟨_, hq⟩ := Option.isSome_iff_exists.mp hq
    have hcp := (deallocate?_eq_some_iff.mp hp).1
    have hcq := (deallocate?_eq_some_iff.mp hq).1
    exact ⟨_, play?_drop_drop hpq hcp hcq, set_comm a hpq _ _ ▸ play?_drop_drop hpq.symm hcq hcp⟩

end Allocation

def Tree.fork : Tree where
  name := "Fork"
  nodes :=
    [⟨.micro, "", ⟨0, 0⟩, 3, "", none⟩, ⟨.micro, "", ⟨0, 1⟩, 3, "", none⟩, ⟨.medium, "", ⟨1, 0⟩, 2, "", some ⟨0, 0⟩⟩]

def Allocation.forked : Allocation :=
  ofEntries [(⟨0, 0⟩, 3), (⟨0, 1⟩, 1), (⟨1, 0⟩, 1)]

theorem Allocation.forked_moves_commute :
    (forked.set ⟨0, 1⟩ 2).canAllocate Tree.fork ⟨1, 0⟩ = true ∧
      (∃ b, forked.play? Tree.fork [.add ⟨0, 1⟩, .add ⟨1, 0⟩] = some b ∧
        forked.play? Tree.fork [.add ⟨1, 0⟩, .add ⟨0, 1⟩] = some b) ∧
      ∃ b, forked.play? Tree.fork [.drop ⟨0, 1⟩, .drop ⟨1, 0⟩] = some b ∧
        forked.play? Tree.fork [.drop ⟨1, 0⟩, .drop ⟨0, 1⟩] = some b := by
  have hmore : ∀ q, forked.pointsAt q ≤ (forked.set ⟨0, 1⟩ 2).pointsAt q := pointsAt_le_set (by decide)
  obtain ⟨hmono, hadds, hdrops⟩ := moves_commute Tree.fork forked
  exact ⟨hmono _ ⟨1, 0⟩ hmore (by decide) (by decide), hadds _ _ (by decide) (by decide) (by decide),
    hdrops _ _ (by decide) (by decide) (by decide)⟩

end CharacterBuild
