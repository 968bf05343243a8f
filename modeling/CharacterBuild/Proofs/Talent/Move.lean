import CharacterBuild.Proofs.Talent.Rules

/-! Moves of single points. One move respects the caps and the prerequisites of every layout, and so does a run of moves
from any allocation. -/

namespace CharacterBuild

inductive Move where
  | add (p : Position)
  | drop (p : Position)

def Move.position : Move → Position
  | .add p => p
  | .drop p => p

def Move.Shifts : Move → UInt32 → UInt32 → Prop
  | .add _, x, y => y.toNat = x.toNat + 1
  | .drop _, x, y => y.toNat + 1 = x.toNat

namespace Allocation

variable {t : Tree} {a b : Allocation} {m : Move} {p q : Position}

def move? (a : Allocation) (t : Tree) : Move → Option Allocation
  | .add p => a.allocate? t p
  | .drop p => a.deallocate? t p

def move (a : Allocation) (t : Tree) (m : Move) : Allocation :=
  (a.move? t m).getD a

def play (a : Allocation) (t : Tree) (ms : List Move) : Allocation :=
  ms.foldl (·.move t ·) a

def play? (a : Allocation) (t : Tree) (ms : List Move) : Option Allocation :=
  ms.foldlM (·.move? t ·) a

@[simp] lemma move?_add : a.move? t (.add p) = a.allocate? t p := rfl

@[simp] lemma move?_drop : a.move? t (.drop p) = a.deallocate? t p := rfl

@[simp] lemma play?_nil : a.play? t [] = some a := rfl

@[simp] lemma play?_cons (ms : List Move) : a.play? t (m :: ms) = (a.move? t m).bind (·.play? t ms) := rfl

lemma created_of_raised
    (h : ∀ p, a.pointsAt p < b.pointsAt p → ∃ n, t.nodeAt? p = some n ∧ b.pointsAt p ≤ n.maxPoints) :
    ∀ e ∈ b.entries, (∀ d ∈ a.entries, d.1 ≠ e.1) → (t.nodeAt? e.1).isSome := by
  intro e he hnew
  have hzero : a.pointsAt e.1 = 0 := by
    by_contra hne
    exact hnew _ (mem_entries hne) rfl
  have hpos : 0 < b.pointsAt e.1 := by
    rw [pointsAt_of_mem he]
    exact UInt32.pos_iff_ne_zero.mpr (b.positive e he)
  obtain ⟨n, hn, _⟩ := h e.1 (hzero ▸ hpos)
  simp [hn]

structure Orderly (t : Tree) (a : Allocation) (m : Move) (b : Allocation) : Prop where
  refused : a.move? t m = none → b = a
  accepted : (a.move? t m).isSome → m.Shifts (a.pointsAt m.position) (b.pointsAt m.position)
  others : ∀ p, p ≠ m.position → b.pointsAt p = a.pointsAt p
  raised : ∀ p, a.pointsAt p < b.pointsAt p → ∃ n, t.nodeAt? p = some n ∧ b.pointsAt p ≤ n.maxPoints
  created : ∀ e ∈ b.entries, (∀ d ∈ a.entries, d.1 ≠ e.1) → (t.nodeAt? e.1).isSome := created_of_raised raised
  positive : ∀ e ∈ b.entries, e.2 ≠ 0 := b.positive
  kept : ∀ p n, t.nodeAt? p = some n → a.pointsAt p ≠ 0 → a.isSatisfied t n.prerequisite = true →
    b.isSatisfied t n.prerequisite = true
  opened : ∀ p n, t.nodeAt? p = some n → a.pointsAt p = 0 → b.pointsAt p ≠ 0 →
    a.isSatisfied t n.prerequisite = true ∧ b.isSatisfied t n.prerequisite = true

lemma orderly_add (h : a.canAllocate t p = true) : Orderly t a (.add p) (a.set p (a.pointsAt p + 1)) := by
  obtain ⟨n, hn, _, hsat, hlt⟩ := canAllocate_iff.mp h
  have hstep := toNat_add_one hlt
  have hle : ∀ q, a.pointsAt q ≤ (a.set p (a.pointsAt p + 1)).pointsAt q :=
    pointsAt_le_set (le_add_one_of_lt hlt)
  have hcap : a.pointsAt p + 1 ≤ n.maxPoints := add_one_le_of_lt hlt
  exact {
    refused := by simp [allocate?, h]
    accepted := fun _ => by simpa [Move.Shifts, Move.position] using hstep
    others := fun q hq => by simp [show q ≠ p from hq]
    raised := fun q hq => by
      rw [pointsAt_set] at hq ⊢
      split at hq
      · next heq => exact ⟨n, heq ▸ hn, by rwa [if_pos heq]⟩
      · exact absurd hq (UInt32.lt_irrefl _)
    kept := fun q m _ _ hq => isSatisfied_mono hle hq
    opened := fun q m hm hq hq' => by
      have heq : q = p := by
        by_contra hne
        simp [hne, hq] at hq'
      subst heq
      obtain rfl : n = m := by simpa [hn] using hm
      exact ⟨hsat, isSatisfied_mono hle hsat⟩ }

lemma orderly_drop (h : a.canDeallocate t p = true) : Orderly t a (.drop p) (a.set p (a.pointsAt p - 1)) := by
  obtain ⟨n, hn, hne, hlock⟩ := canDeallocate_iff.mp h
  have hstep := toNat_sub_one hne
  have hle : ∀ q, (a.set p (a.pointsAt p - 1)).pointsAt q ≤ a.pointsAt q :=
    set_pointsAt_le (sub_one_le_of_ne_zero hne)
  exact {
    refused := by simp [deallocate?, h]
    accepted := fun _ => by simpa [Move.Shifts, Move.position] using hstep
    others := fun q hq => by simp [show q ≠ p from hq]
    raised := fun q hq => absurd hq (UInt32.not_lt.mpr (hle q))
    -- a node in use whose prerequisite is full stands among the dependents that lock the full node
    kept := fun q m hm hq hsat => by
      rw [isSatisfied_iff] at hsat ⊢
      intro pre hpre
      obtain ⟨k, hk, hfull⟩ := hsat pre hpre
      refine ⟨k, hk, ?_⟩
      have hpne : pre ≠ p := by
        rintro rfl
        obtain rfl : n = k := by simpa [hn] using hk
        have hdep := hlock hfull m (Tree.mem_dependents.mpr ⟨Tree.nodeAt?_mem hm, hpre⟩)
        rw [Tree.nodeAt?_position hm] at hdep
        exact hq hdep
      simpa [hpne] using hfull
    opened := fun q m _ hq hq' => by
      have hzero := hle q
      rw [hq] at hzero
      exact absurd (UInt32.le_zero_iff.mp hzero) hq' }

lemma orderly_refused (h : a.move? t m = none) : Orderly t a m a where
  refused _ := rfl
  accepted hs := by simp [h] at hs
  others _ _ := rfl
  raised _ hp := absurd hp (UInt32.lt_irrefl _)
  kept _ _ _ _ hs := hs
  opened _ _ _ hp hp' := absurd hp hp'

lemma orderly_move (a : Allocation) (t : Tree) (m : Move) : Orderly t a m (a.move t m) := by
  cases hm : a.move? t m with
  | none =>
    rw [move, hm]
    exact orderly_refused hm
  | some b =>
    rw [move, hm, Option.getD_some]
    cases m with
    | add p =>
      obtain ⟨h, rfl⟩ := allocate?_eq_some_iff.mp hm
      exact orderly_add h
    | drop p =>
      obtain ⟨h, rfl⟩ := deallocate?_eq_some_iff.mp hm
      exact orderly_drop h

def IsFull (a : Allocation) (t : Tree) (p : Position) : Prop :=
  ∃ n ∈ t.nodeAt? p, a.pointsAt p = n.maxPoints

instance : Decidable (a.IsFull t p) :=
  inferInstanceAs (Decidable (∃ n ∈ t.nodeAt? p, a.pointsAt p = n.maxPoints))

def Legal (a : Allocation) (t : Tree) : Prop :=
  ∀ e ∈ a.entries, ∃ n ∈ t.nodeAt? e.1, 1 ≤ e.2 ∧ e.2 ≤ n.maxPoints ∧ ∀ pre ∈ n.prerequisite, a.IsFull t pre

instance : Decidable (a.Legal t) :=
  inferInstanceAs (Decidable (∀ e ∈ a.entries, ∃ n ∈ t.nodeAt? e.1, 1 ≤ e.2 ∧ e.2 ≤ n.maxPoints ∧
    ∀ pre ∈ n.prerequisite, a.IsFull t pre))

lemma legal_iff :
    a.Legal t ↔ ∀ p, a.pointsAt p ≠ 0 → ∃ n, t.nodeAt? p = some n ∧ a.pointsAt p ≤ n.maxPoints ∧
      a.isSatisfied t n.prerequisite = true := by
  constructor
  · intro h p hp
    obtain ⟨n, hn, _, hle, hfull⟩ := h _ (mem_entries hp)
    refine ⟨n, hn, hle, isSatisfied_iff.mpr fun pre hpre => ?_⟩
    obtain ⟨k, hk, heq⟩ := hfull pre hpre
    exact ⟨k, hk, heq ▸ UInt32.le_refl _⟩
  · intro h e he
    have hpoints := pointsAt_of_mem he
    have hne := a.positive e he
    obtain ⟨n, hn, hle, hsat⟩ := h e.1 (hpoints ▸ hne)
    rw [hpoints] at hle
    have hpos : 1 ≤ e.2.toNat := Nat.pos_of_ne_zero fun h0 => hne (UInt32.toNat_inj.mp h0)
    refine ⟨n, hn, UInt32.le_iff_toNat_le.mpr hpos, hle, fun pre hpre => ?_⟩
    obtain ⟨k, hk, hcap⟩ := isSatisfied_iff.mp hsat pre hpre
    refine ⟨k, hk, UInt32.le_antisymm ?_ hcap⟩
    -- a position without points is full only where the cap is zero
    by_cases hz : a.pointsAt pre = 0
    · rw [hz]
      exact UInt32.zero_le
    · obtain ⟨l, hl, hle', _⟩ := h pre hz
      obtain rfl : k = l := by simpa [hk] using hl
      exact hle'

lemma Orderly.legal (h : Orderly t a m b) (ha : a.Legal t) : b.Legal t := by
  rw [legal_iff] at *
  intro p hp
  by_cases hz : a.pointsAt p = 0
  · have hlt : a.pointsAt p < b.pointsAt p := hz ▸ UInt32.pos_iff_ne_zero.mpr hp
    obtain ⟨n, hn, hle⟩ := h.raised p hlt
    exact ⟨n, hn, hle, (h.opened p n hn hz hp).2⟩
  · obtain ⟨n, hn, hle, hsat⟩ := ha p hz
    refine ⟨n, hn, ?_, h.kept p n hn hz hsat⟩
    by_cases hlt : a.pointsAt p < b.pointsAt p
    · obtain ⟨k, hk, hcap⟩ := h.raised p hlt
      obtain rfl : n = k := by simpa [hn] using hk
      exact hcap
    · exact UInt32.le_trans (UInt32.not_lt.mp hlt) hle

lemma legal_empty (t : Tree) : empty.Legal t :=
  fun _ he => absurd he List.not_mem_nil

lemma play?_append (ms ms' : List Move) : a.play? t (ms ++ ms') = (a.play? t ms).bind (·.play? t ms') := by
  simp only [play?, List.foldlM_append]
  rfl

lemma play_eq_of_play? {ms : List Move} (h : a.play? t ms = some b) : a.play t ms = b := by
  induction ms generalizing a with
  | nil => exact Option.some.inj h
  | cons m ms ih =>
    rw [play?_cons] at h
    obtain ⟨c, hc, hrest⟩ := Option.bind_eq_some_iff.mp h
    have hmove : a.move t m = c := by rw [move, hc, Option.getD_some]
    rw [← ih hrest, ← hmove]
    rfl

lemma play_invariant {inv : Allocation → Prop} (hstep : ∀ a m b, Orderly t a m b → inv a → inv b) (h : inv a)
    (ms : List Move) : inv (a.play t ms) := by
  induction ms generalizing a with
  | nil => exact h
  | cons m ms ih => exact ih (hstep a m _ (orderly_move a t m) h)

theorem play_orderly (t : Tree) (a : Allocation) (ms : List Move) (m : Move) :
    Orderly t (a.play t ms) m ((a.play t ms).move t m) ∧ (empty.play t ms).Legal t :=
  ⟨orderly_move _ t m, play_invariant (fun _ _ _ h => h.legal) (legal_empty t) ms⟩

end Allocation

def Tree.ladder : Tree where
  name := "Ladder"
  nodes :=
    [⟨.micro, "", ⟨0, 0⟩, 3, "", none⟩, ⟨.medium, "", ⟨1, 0⟩, 2, "", some ⟨1, 1⟩⟩,
      ⟨.micro, "", ⟨1, 1⟩, 1, "", some ⟨0, 0⟩⟩]

def Tree.loopedLadder : Tree where
  name := "Looped"
  nodes := ladder.nodes ++ [⟨.micro, "", ⟨0, 1⟩, 1, "", some ⟨0, 1⟩⟩, ⟨.micro, "", ⟨0, 2⟩, 1, "", some ⟨0, 1⟩⟩]

def Allocation.climbed : Allocation :=
  ofEntries [(⟨0, 0⟩, 3), (⟨1, 0⟩, 1), (⟨1, 1⟩, 1)]

end CharacterBuild
