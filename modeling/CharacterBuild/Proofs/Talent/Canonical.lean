import Mathlib
import CharacterBuild.Proofs.Talent.Move

/-! The saved form of an allocation. A list is read entry by entry, so that the last one of a position counts; what is
written out is the one list without repeats, without zeros and in order that reads as the same allocation. -/

namespace CharacterBuild

namespace Entries

variable {es : Entries} {p : Position} {n : UInt32}

def lastPoints (es : Entries) (p : Position) : UInt32 :=
  (es.reverse.lookup p).getD 0

@[simp] lemma lastPoints_nil (p : Position) : lastPoints [] p = 0 := rfl

lemma lastPoints_append_singleton (es : Entries) (e : Position × UInt32) (p : Position) :
    lastPoints (es ++ [e]) p = if p = e.1 then e.2 else es.lastPoints p := by
  rw [lastPoints, List.reverse_append, List.reverse_singleton, List.singleton_append, lookup_cons]
  by_cases hp : p = e.1 <;> simp [hp, lastPoints]

lemma lookup_reverse_eq_some_iff : es.reverse.lookup p = some n ↔
    ∃ before after, es = before ++ (p, n) :: after ∧ ∀ e ∈ after, e.1 ≠ p := by
  rw [List.lookup_eq_some_iff]
  constructor
  · rintro ⟨after, before, h, hne⟩
    refine ⟨before.reverse, after.reverse, ?_, fun e he heq => ?_⟩
    · rw [← List.reverse_reverse es, h]
      simp
    · exact bne_iff_ne.mp (hne e (List.mem_reverse.mp he)) heq.symm
  · rintro ⟨before, after, rfl, hne⟩
    refine ⟨after.reverse, before.reverse, by simp, fun e he => ?_⟩
    exact bne_iff_ne.mpr (hne e (List.mem_reverse.mp he)).symm

lemma lastPoints_eq_iff (hn : n ≠ 0) : es.lastPoints p = n ↔
    ∃ before after, es = before ++ (p, n) :: after ∧ ∀ e ∈ after, e.1 ≠ p := by
  rw [← lookup_reverse_eq_some_iff, lastPoints]
  cases es.reverse.lookup p with
  | none => simp [hn.symm]
  | some m => simp

lemma Sorted.lookup_reverse (h : es.Sorted) (p : Position) : es.reverse.lookup p = es.lookup p := by
  apply Option.ext
  intro n
  rw [lookup_reverse_eq_some_iff, ← h.mem_iff]
  constructor
  · rintro ⟨before, after, rfl, _⟩
    simp
  · intro hmem
    obtain ⟨before, after, rfl⟩ := List.append_of_mem hmem
    refine ⟨before, after, rfl, fun e he => ?_⟩
    obtain ⟨_, hlater, _⟩ := List.pairwise_append.mp h
    exact (Position.ne_of_lt ((List.pairwise_cons.mp hlater).1 e he)).symm

def toValue (es : Entries) : Value :=
  .list <| es.map fun e =>
    .table [("x", .integer e.1.x.toNat), ("y", .integer e.1.y.toNat), ("points", .integer e.2.toNat)]

end Entries

lemma Value.count?_toNat (n : UInt32) : Value.count? (.integer n.toNat) = some n := by
  have hn : 0 ≤ (n.toNat : ℤ) ∧ (n.toNat : ℤ) < UInt32.size := ⟨Int.natCast_nonneg _, by exact_mod_cast n.toNat_lt⟩
  rw [count?, if_pos hn, Int.toNat_natCast, UInt32.ofNat_toNat]

namespace Allocation

variable {a : Allocation} {n : UInt32}

lemma entry?_table {vx vy vn : Value} {x y : UInt32} (hx : vx.count? = some x) (hy : vy.count? = some y)
    (hn : vn.count? = some n) : ofValue?.entry? (.table [("x", vx), ("y", vy), ("points", vn)]) = some (⟨x, y⟩, n) := by
  change (do
    let x ← vx.count?
    let y ← vy.count?
    let n ← vn.count?
    some ((⟨x, y⟩ : Position), n)) = _
  rw [hx, hy, hn]
  rfl

lemma ofValue?_toValue (es : Entries) : ofValue? es.toValue = some (ofEntries es) := by
  have hlist : Value.list? ofValue?.entry? es.toValue = some es := by
    rw [Entries.toValue, Value.list?]
    induction es with
    | nil => rfl
    | cons e es ih =>
      have he := entry?_table (Value.count?_toNat e.1.x) (Value.count?_toNat e.1.y) (Value.count?_toNat e.2)
      rw [List.map_cons, List.mapM_cons, he, ih]
      rfl
  rw [ofValue?, hlist]
  rfl

lemma ofEntries_append_singleton (L : Entries) (e : Position × UInt32) :
    ofEntries (L ++ [e]) = (ofEntries L).set e.1 e.2 := by
  simp [ofEntries]

lemma pointsAt_ofEntries (L : Entries) (p : Position) : (ofEntries L).pointsAt p = L.lastPoints p := by
  -- from the end, where the entry stands that counts
  induction L using List.reverseRecOn with
  | nil => rfl
  | append_singleton L e ih => rw [ofEntries_append_singleton, pointsAt_set, ih, Entries.lastPoints_append_singleton]

lemma ofEntries_entries (a : Allocation) : ofEntries a.entries = a := by
  apply ext_pointsAt
  intro p
  rw [pointsAt_ofEntries, Entries.lastPoints, a.sorted.lookup_reverse, pointsAt]

lemma entries_eq_iff {es : Entries} :
    a.entries = es ↔ es.Sorted ∧ ∀ p n, (p, n) ∈ es ↔ n ≠ 0 ∧ a.pointsAt p = n := by
  have hmem : ∀ p n, (p, n) ∈ a.entries ↔ n ≠ 0 ∧ a.pointsAt p = n := fun p n => mem_entries_iff.trans and_comm
  constructor
  · rintro rfl
    exact ⟨a.sorted, hmem⟩
  · rintro ⟨hsorted, hes⟩
    apply a.sorted.eq_of_mem_iff hsorted
    rintro ⟨p, n⟩
    rw [hmem, hes]

inductive Edit where
  | put (p : Position) (n : UInt32)
  | move (t : Tree) (m : Move)

def edit (a : Allocation) : Edit → Allocation
  | .put p n => a.set p n
  | .move t m => a.move t m

def edited (L : Entries) (es : List Edit) : Allocation :=
  es.foldl edit (ofEntries L)

theorem saved_form_canonical (L L' : Entries) (es es' : List Edit) :
    (∀ e ∈ (edited L es).entries, e.2 ≠ 0) ∧
      (edited L es).entries.Pairwise (fun d e => d.1.x < e.1.x ∨ d.1.x = e.1.x ∧ d.1.y < e.1.y) ∧
      (edited L es = edited L' es' ↔ ∀ p, (edited L es).pointsAt p = (edited L' es').pointsAt p) ∧
      ofEntries (edited L es).entries = edited L es ∧
      ofValue? (edited L es).toValue = some (edited L es) ∧
      ∃ saved : Entries, (ofValue? L.toValue).map toValue = some saved.toValue ∧ saved.Sorted ∧
        ∀ p n, (p, n) ∈ saved ↔ n ≠ 0 ∧ ∃ before after, L = before ++ (p, n) :: after ∧ ∀ e ∈ after, e.1 ≠ p := by
  refine ⟨(edited L es).positive, (edited L es).sorted, ⟨fun h p => by rw [h], ext_pointsAt⟩, ofEntries_entries _, ?_,
    (ofEntries L).entries, ?_, (ofEntries L).sorted, fun p n => ?_⟩
  · exact (ofValue?_toValue _).trans (congrArg some (ofEntries_entries _))
  · rw [ofValue?_toValue]
    rfl
  · rw [(entries_eq_iff.mp rfl).2, pointsAt_ofEntries]
    exact and_congr_right Entries.lastPoints_eq_iff

example : (ofEntries [(⟨1, 0⟩, 2), (⟨0, 1⟩, 3), (⟨1, 0⟩, 0), (⟨0, 0⟩, 1)]).entries = [(⟨0, 0⟩, 1), (⟨0, 1⟩, 3)] := by
  decide

end Allocation
end CharacterBuild
