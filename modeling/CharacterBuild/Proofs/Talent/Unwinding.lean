import CharacterBuild.Proofs.Talent.Chain
import CharacterBuild.Proofs.Talent.Move
import CharacterBuild.Proofs.Talent.Total

/-! Points that are put in one by one can be taken out one by one. A node takes its first point only once its
prerequisite is full, so points never stand on an endless chain, and the deepest of them are free to go. -/

namespace CharacterBuild.Allocation

variable {t : Tree} {a b : Allocation} {m : Move} {ms : List Move} {p : Position}

def Grounded (a : Allocation) (t : Tree) : Prop :=
  ∀ p, a.pointsAt p ≠ 0 → ∃ k, t.EndsAfter k p

lemma grounded_empty (t : Tree) : empty.Grounded t :=
  fun _ hp => absurd rfl hp

lemma Orderly.grounded (ht : t.Valid) (h : Orderly t a m b) (ha : a.Grounded t) : b.Grounded t := by
  intro p hp
  by_cases hz : a.pointsAt p = 0
  · have hlt : a.pointsAt p < b.pointsAt p := hz ▸ UInt32.pos_iff_ne_zero.mpr hp
    obtain ⟨n, hn, _⟩ := h.raised p hlt
    cases hpre : n.prerequisite with
    | none => exact ⟨0, n, hn, hpre⟩
    | some pre =>
      -- the prerequisite held its points before this move, so its chain is known to end
      obtain ⟨r, hr, hfull⟩ := isSatisfied_iff.mp (h.opened p n hn hz hp).1 pre hpre
      have hheld : a.pointsAt pre ≠ 0 := by
        intro h0
        rw [h0] at hfull
        exact ht.cap r (Tree.nodeAt?_mem hr) (UInt32.le_zero_iff.mp hfull)
      obtain ⟨k, hk⟩ := ha pre hheld
      exact ⟨k + 1, hk.succ hn hpre⟩
  · exact ha p hz

lemma grounded_play (ht : t.Valid) (ms : List Move) : (empty.play t ms).Grounded t :=
  play_invariant (fun _ _ _ h => h.grounded ht) (grounded_empty t) ms

theorem chain_ends_of_pointsAt_ne_zero (ht : t.fault? = none) (hp : (empty.play t ms).pointsAt p ≠ 0) :
    (∃ k < t.nodes.length, t.EndsAfter k p) ∧ ∀ i n, t.ancestor? i p = some n → ¬ t.OnCycle n.position := by
  obtain ⟨k, hk⟩ := grounded_play (Tree.fault?_eq_none_iff.mp ht) ms p hp
  exact ⟨⟨k, hk.lt_length, hk⟩, fun i n hn => hk.not_onCycle hn⟩

theorem chain_ends_on_ladder :
    Tree.loopedLadder.fault? = none ∧
      (empty.play Tree.loopedLadder
        [.add ⟨0, 0⟩, .add ⟨0, 1⟩, .add ⟨0, 0⟩, .add ⟨0, 0⟩, .add ⟨1, 1⟩, .add ⟨1, 0⟩]).pointsAt ⟨1, 0⟩ ≠ 0 ∧
      (∃ k < Tree.loopedLadder.nodes.length, Tree.loopedLadder.EndsAfter k ⟨1, 0⟩) ∧
      ∀ i n, Tree.loopedLadder.ancestor? i ⟨1, 0⟩ = some n → ¬ Tree.loopedLadder.OnCycle n.position := by
  have ht : Tree.loopedLadder.fault? = none := by decide
  have hp : (empty.play Tree.loopedLadder
      [.add ⟨0, 0⟩, .add ⟨0, 1⟩, .add ⟨0, 0⟩, .add ⟨0, 0⟩, .add ⟨1, 1⟩, .add ⟨1, 0⟩]).pointsAt ⟨1, 0⟩ ≠ 0 := by
    decide
  exact ⟨ht, hp, chain_ends_of_pointsAt_ne_zero ht hp⟩

lemma Grounded.exists_canDeallocate (ht : t.Valid) (h : a.Grounded t) (hne : a ≠ empty) :
    ∃ p, a.canDeallocate t p = true := by
  obtain ⟨p, k, hp, hk, hdeepest⟩ := Tree.exists_deepest h (exists_pointsAt_ne_zero hne)
  obtain ⟨n, hn⟩ := Option.isSome_iff_exists.mp hk.nodeAt?_isSome
  refine ⟨p, canDeallocate_iff.mpr ⟨n, hn, hp, fun _ d hd => ?_⟩⟩
  obtain ⟨hmem, hpre⟩ := Tree.mem_dependents.mp hd
  by_contra hheld
  have hdeeper := hdeepest d.position (k + 1) hheld (hk.succ (ht.nodeAt?_of_mem hmem) hpre)
  omega

lemma Grounded.exists_drops (ht : t.Valid) (h : a.Grounded t) :
    ∃ ps : List Position, ps.length = a.entries.total ∧ a.play? t (ps.map .drop) = some empty := by
  induction a using drop_induction with
  | hempty => exact ⟨[], rfl, rfl⟩
  | hdrop a hne ih =>
    obtain ⟨p, hp⟩ := h.exists_canDeallocate ht hne
    obtain ⟨_, _, hheld, _⟩ := canDeallocate_iff.mp hp
    obtain ⟨ps, hlen, hplay⟩ := ih p hheld ((orderly_drop hp).grounded ht h)
    have hdrop : a.move? t (.drop p) = some (a.set p (a.pointsAt p - 1)) := deallocate?_eq_some_iff.mpr ⟨hp, rfl⟩
    refine ⟨p :: ps, ?_, ?_⟩
    · rw [List.length_cons, hlen, total_drop hheld]
    · rw [List.map_cons, play?_cons, hdrop]
      exact hplay

theorem exists_unwinding (ht : t.fault? = none) (h : empty.play? t ms = some a) :
    (a.isEmpty = false → ∃ p, a.canDeallocate t p = true) ∧
      ∃ ps : List Position, ps.length = a.entries.total ∧ a.play? t (ps.map .drop) = some empty := by
  have hv := Tree.fault?_eq_none_iff.mp ht
  have ha : a.Grounded t := play_eq_of_play? h ▸ grounded_play hv ms
  refine ⟨fun hne => ha.exists_canDeallocate hv ?_, ha.exists_drops hv⟩
  rintro rfl
  exact absurd hne (by decide)

theorem climbed_unwinding :
    Tree.loopedLadder.fault? = none ∧
      empty.play? Tree.loopedLadder [.add ⟨0, 0⟩, .add ⟨0, 0⟩, .add ⟨0, 0⟩, .add ⟨1, 1⟩, .add ⟨1, 0⟩] = some climbed ∧
      (climbed.isEmpty = false → ∃ p, climbed.canDeallocate Tree.loopedLadder p = true) ∧
      ∃ ps : List Position, ps.length = climbed.entries.total ∧
        climbed.play? Tree.loopedLadder (ps.map .drop) = some empty := by
  have ht : Tree.loopedLadder.fault? = none := by decide
  have hplay : empty.play? Tree.loopedLadder
      [.add ⟨0, 0⟩, .add ⟨0, 0⟩, .add ⟨0, 0⟩, .add ⟨1, 1⟩, .add ⟨1, 0⟩] = some climbed := by
    decide
  exact ⟨ht, hplay, exists_unwinding ht hplay⟩

end CharacterBuild.Allocation
