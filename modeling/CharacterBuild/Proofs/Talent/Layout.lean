import CharacterBuild.Proofs.Scan
import CharacterBuild.Talent.Tree
import Mathlib

namespace CharacterBuild.Tree

variable {t : Tree} {n : TalentNode} {p : Position}

structure Valid (t : Tree) : Prop where
  cap : ∀ n ∈ t.nodes, n.maxPoints ≠ 0
  distinct : (t.nodes.map (·.position)).Nodup
  resolved : ∀ n ∈ t.nodes, ∀ pre, n.prerequisite = some pre → (t.nodeAt? pre).isSome

lemma nodeAt?_mem (h : t.nodeAt? p = some n) : n ∈ t.nodes :=
  List.mem_of_find?_eq_some h

lemma nodeAt?_position (h : t.nodeAt? p = some n) : n.position = p := by
  simpa using List.find?_some h

lemma mem_dependents : n ∈ t.dependents p ↔ n ∈ t.nodes ∧ n.prerequisite = some p := by
  simp [dependents]

lemma Valid.nodeAt?_of_mem (h : t.Valid) (hn : n ∈ t.nodes) : t.nodeAt? n.position = some n := by
  have hfound : (t.nodeAt? n.position).isSome := List.find?_isSome.mpr ⟨n, hn, by simp⟩
  obtain ⟨m, hm⟩ := Option.isSome_iff_exists.mp hfound
  rw [hm, List.inj_on_of_nodup_map h.distinct (nodeAt?_mem hm) hn (nodeAt?_position hm)]

lemma nodeFault?_eq_none_iff {before : List TalentNode} :
    t.nodeFault? before n = none ↔
      n.maxPoints ≠ 0 ∧ n.position ∉ before.map (·.position) ∧
        ∀ pre, n.prerequisite = some pre → (t.nodeAt? pre).isSome := by
  have hany : before.any (·.position = n.position) = true ↔ n.position ∈ before.map (·.position) := by simp
  unfold nodeFault?
  rw [← hany]
  split
  · next hcap => simp [hcap]
  · next hcap =>
    split
    · next hdup => simp [hdup]
    · next hdup =>
      cases hpre : n.prerequisite with
      | none => simp [hcap, hdup]
      | some pre => cases ht : t.nodeAt? pre <;> simp [hcap, hdup, ht]

lemma firstFault?_eq_scan (t : Tree) (before after : List TalentNode) :
    t.firstFault? before after = scan? t.nodeFault? before after := by
  induction after generalizing before with
  | nil => rfl
  | cons n after ih => rw [firstFault?, scan?, ih]

lemma fault?_eq_none_iff : t.fault? = none ↔ t.Valid := by
  have hcheck : ∀ before n, t.nodeFault? before n = none ↔
      (n.maxPoints ≠ 0 ∧ ∀ pre, n.prerequisite = some pre → (t.nodeAt? pre).isSome) ∧
        n.position ∉ before.map (·.position) := by
    intro before n
    rw [nodeFault?_eq_none_iff]
    tauto
  have hstart : (([] : List TalentNode).map (·.position)).Nodup := List.nodup_nil
  rw [fault?, firstFault?_eq_scan, scan?_eq_none_iff, allPass_iff_nodup hcheck hstart]
  constructor
  · rintro ⟨hsound, hdistinct⟩
    exact ⟨fun n hn => (hsound n hn).1, hdistinct, fun n hn => (hsound n hn).2⟩
  · intro h
    exact ⟨fun n hn => ⟨h.cap n hn, h.resolved n hn⟩, h.distinct⟩

end CharacterBuild.Tree
