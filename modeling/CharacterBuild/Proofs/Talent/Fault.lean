import Mathlib
import CharacterBuild.Proofs.Talent.Layout

namespace CharacterBuild.Tree

variable {t : Tree} {before after : List TalentNode} {n : TalentNode} {p : Position} {f : LayoutFault} {s : String}

structure Passes (t : Tree) (before : List TalentNode) (n : TalentNode) : Prop where
  cap : 0 < n.maxPoints
  fresh : ∀ m ∈ before, m.position ≠ n.position
  resolved : ∀ pre ∈ n.prerequisite, ∃ m ∈ t.nodes, m.position = pre

inductive Fails (t : Tree) (before : List TalentNode) (n : TalentNode) : String → Prop
  | noPoints (hcap : n.maxPoints = 0) : Fails t before n ("node at " ++ n.position.text ++ " has max_points 0")
  | duplicate (hcap : 0 < n.maxPoints) (hdup : ∃ m ∈ before, m.position = n.position) :
      Fails t before n ("duplicate node at " ++ n.position.text)
  | missing (pre : Position) (hcap : 0 < n.maxPoints) (hfresh : ∀ m ∈ before, m.position ≠ n.position)
      (hpre : n.prerequisite = some pre) (hgone : ∀ m ∈ t.nodes, m.position ≠ pre) :
      Fails t before n ("node at " ++ n.position.text ++ " requires missing node " ++ pre.text)

lemma nodeAt?_isSome_iff : (t.nodeAt? p).isSome ↔ ∃ m ∈ t.nodes, m.position = p := by
  simp [nodeAt?]

lemma nodeFault?_eq_none_iff_passes : t.nodeFault? before n = none ↔ t.Passes before n := by
  rw [nodeFault?_eq_none_iff]
  constructor
  · rintro ⟨hcap, hfresh, hres⟩
    refine ⟨UInt32.pos_iff_ne_zero.mpr hcap, fun m hm heq => ?_, fun pre hpre => nodeAt?_isSome_iff.mp (hres pre hpre)⟩
    exact hfresh (List.mem_map.mpr ⟨m, hm, heq⟩)
  · rintro ⟨hcap, hfresh, hres⟩
    refine ⟨UInt32.pos_iff_ne_zero.mp hcap, fun hmem => ?_, fun pre hpre => nodeAt?_isSome_iff.mpr (hres pre hpre)⟩
    obtain ⟨m, hm, heq⟩ := List.mem_map.mp hmem
    exact hfresh m hm heq

lemma fails_of_nodeFault? (h : t.nodeFault? before n = some f) : t.Fails before n f.message := by
  unfold nodeFault? at h
  split at h
  · next hcap =>
    obtain rfl := Option.some.inj h
    exact .noPoints hcap
  · next hcap =>
    have hpos : 0 < n.maxPoints := UInt32.pos_iff_ne_zero.mpr hcap
    split at h
    · next hdup =>
      obtain rfl := Option.some.inj h
      exact .duplicate hpos (by simpa using hdup)
    · next hdup =>
      have hfresh : ∀ m ∈ before, m.position ≠ n.position := by simpa using hdup
      split at h
      · next pre hpre =>
        split at h
        · next hgone =>
          obtain rfl := Option.some.inj h
          refine .missing pre hpos hfresh hpre fun m hm heq => ?_
          have hfound := nodeAt?_isSome_iff.mpr ⟨m, hm, heq⟩
          rw [Option.isNone_iff_eq_none.mp hgone] at hfound
          cases hfound
        · cases h
      · cases h

lemma message_nodeFault? (h : t.Fails before n s) : (t.nodeFault? before n).map (·.message) = some s := by
  cases h with
  | noPoints hcap =>
    rw [nodeFault?, if_pos hcap]
    rfl
  | duplicate hcap hdup =>
    have hany : before.any (·.position = n.position) = true := by simpa using hdup
    rw [nodeFault?, if_neg (UInt32.pos_iff_ne_zero.mp hcap), if_pos hany]
    rfl
  | missing pre hcap hfresh hpre hgone =>
    have hany : ¬ before.any (·.position = n.position) = true := by simpa using hfresh
    have hnone : (t.nodeAt? pre).isNone = true := by
      rw [Option.isNone_iff_eq_none, ← Option.not_isSome_iff_eq_none, nodeAt?_isSome_iff]
      rintro ⟨m, hm, heq⟩
      exact hgone m hm heq
    rw [nodeFault?, if_neg (UInt32.pos_iff_ne_zero.mp hcap), if_neg hany, hpre]
    exact congrArg _ (if_pos hnone)

def PassAll (t : Tree) (before mid : List TalentNode) : Prop :=
  ∀ earlier m later, mid = earlier ++ m :: later → t.Passes (before ++ earlier) m

lemma allPass_iff_passAll {mid : List TalentNode} : AllPass t.nodeFault? before mid ↔ t.PassAll before mid := by
  simp only [AllPass, PassAll, nodeFault?_eq_none_iff_passes]

lemma firstFault?_eq_some_iff : t.firstFault? before after = some f ↔
    ∃ mid n later, after = mid ++ n :: later ∧ t.PassAll before mid ∧ t.nodeFault? (before ++ mid) n = some f := by
  rw [firstFault?_eq_scan, scan?_eq_some_iff]
  simp only [allPass_iff_passAll]

lemma message_fault?_iff : t.fault?.map (·.message) = some s ↔
    ∃ before n after, t.nodes = before ++ n :: after ∧ t.PassAll [] before ∧ t.Fails before n s := by
  constructor
  · intro h
    obtain ⟨f, hf, rfl⟩ := Option.map_eq_some_iff.mp h
    obtain ⟨before, n, after, hnodes, hbefore, hn⟩ := firstFault?_eq_some_iff.mp hf
    exact ⟨before, n, after, hnodes, hbefore, fails_of_nodeFault? hn⟩
  · rintro ⟨before, n, after, hnodes, hbefore, hn⟩
    obtain ⟨f, hf, rfl⟩ := Option.map_eq_some_iff.mp (message_nodeFault? hn)
    exact congrArg _ (firstFault?_eq_some_iff.mpr ⟨before, n, after, hnodes, hbefore, hf⟩)

lemma valid_iff : t.Valid ↔ (∀ n ∈ t.nodes, 0 < n.maxPoints) ∧ t.nodes.Pairwise (·.position ≠ ·.position) ∧
    ∀ n ∈ t.nodes, ∀ pre ∈ n.prerequisite, ∃ m ∈ t.nodes, m.position = pre := by
  have hdistinct : (t.nodes.map (·.position)).Nodup ↔ t.nodes.Pairwise (·.position ≠ ·.position) :=
    List.pairwise_map
  constructor
  · intro h
    refine ⟨fun n hn => UInt32.pos_iff_ne_zero.mpr (h.cap n hn), hdistinct.mp h.distinct, fun n hn pre hpre => ?_⟩
    exact nodeAt?_isSome_iff.mp (h.resolved n hn pre hpre)
  · rintro ⟨hcap, hdist, hres⟩
    refine ⟨fun n hn => UInt32.pos_iff_ne_zero.mp (hcap n hn), hdistinct.mpr hdist, fun n hn pre hpre => ?_⟩
    exact nodeAt?_isSome_iff.mpr (hres n hn pre hpre)

theorem fault?_exact (t : Tree) :
    (t.fault? = none ↔ (∀ n ∈ t.nodes, 0 < n.maxPoints) ∧ t.nodes.Pairwise (·.position ≠ ·.position) ∧
        ∀ n ∈ t.nodes, ∀ pre ∈ n.prerequisite, ∃ m ∈ t.nodes, m.position = pre) ∧
      (∀ s, t.fault?.map (·.message) = some s ↔ ∃ before n after, t.nodes = before ++ n :: after ∧
        (∀ earlier m later, before = earlier ++ m :: later → t.Passes earlier m) ∧ t.Fails before n s) ∧
      (t.fault? = none → (∀ n ∈ t.nodes, t.nodeAt? n.position = some n) ∧
        ∀ p, t.dependents p ≠ [] → (t.nodeAt? p).isSome) := by
  refine ⟨fault?_eq_none_iff.trans valid_iff, fun s => message_fault?_iff, fun h => ?_⟩
  have hv := fault?_eq_none_iff.mp h
  refine ⟨fun n hn => hv.nodeAt?_of_mem hn, fun p hp => ?_⟩
  obtain ⟨d, hd⟩ := List.exists_mem_of_ne_nil _ hp
  obtain ⟨hmem, hpre⟩ := mem_dependents.mp hd
  exact hv.resolved d hmem p hpre

def tangled : Tree where
  name := "Tangled"
  nodes :=
    [⟨.micro, "", ⟨0, 0⟩, 1, "", some ⟨0, 1⟩⟩, ⟨.micro, "", ⟨0, 1⟩, 2, "", some ⟨0, 1⟩⟩,
      ⟨.micro, "", ⟨0, 0⟩, 3, "", some ⟨9, 9⟩⟩, ⟨.micro, "", ⟨2, 2⟩, 0, "", none⟩]

theorem tangled_told : tangled.fault?.map (·.message) = some "duplicate node at (0, 0)" ∧
    ∃ before n after, tangled.nodes = before ++ n :: after ∧
      (∀ earlier m later, before = earlier ++ m :: later → tangled.Passes earlier m) ∧
      tangled.Fails before n "duplicate node at (0, 0)" := by
  have htold : tangled.fault?.map (·.message) = some "duplicate node at (0, 0)" := by decide +kernel
  exact ⟨htold, ((fault?_exact tangled).2.1 _).mp htold⟩

end CharacterBuild.Tree
