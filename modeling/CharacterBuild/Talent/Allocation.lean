import CharacterBuild.Talent.Tree

/-! Points put into the nodes of a tree. An allocation lists its positions in order, each with at least one point, so
equal allocations are equal lists. -/

namespace CharacterBuild

namespace Position

theorem lt_trans {p q r : Position} (h : p < q) (h' : q < r) : p < r := by
  simp only [lt_def, UInt32.lt_iff_toNat_lt, ← UInt32.toNat_inj] at *
  omega

theorem lt_of_not_lt {p q : Position} (h : ¬ p < q) (hne : p ≠ q) : q < p := by
  obtain ⟨x, y⟩ := p
  obtain ⟨x', y'⟩ := q
  simp only [lt_def, ne_eq, mk.injEq, UInt32.lt_iff_toNat_lt, ← UInt32.toNat_inj] at *
  omega

theorem ne_of_lt {p q : Position} (h : p < q) : p ≠ q := by
  rintro rfl
  simp only [lt_def, UInt32.lt_iff_toNat_lt] at h
  omega

end Position

abbrev Entries := List (Position × UInt32)

namespace Entries

def Sorted (es : Entries) : Prop :=
  es.Pairwise (·.1 < ·.1)

def put (p : Position) (n : UInt32) : Entries → Entries
  | [] => [(p, n)]
  | e :: es =>
    if p < e.1 then (p, n) :: e :: es
    else if p = e.1 then (p, n) :: es
    else e :: put p n es

def erase (p : Position) (es : Entries) : Entries :=
  es.filter (·.1 ≠ p)

theorem mem_put {p : Position} {n : UInt32} {es : Entries} {e : Position × UInt32} (h : e ∈ put p n es) :
    e = (p, n) ∨ e ∈ es := by
  induction es with
  | nil => exact .inl (List.mem_singleton.mp h)
  | cons d es ih =>
    unfold put at h
    split at h
    · exact List.mem_cons.mp h
    · split at h
      · rcases List.mem_cons.mp h with h | h
        · exact .inl h
        · exact .inr (.tail _ h)
      · rcases List.mem_cons.mp h with h | h
        · exact .inr (h ▸ .head _)
        · exact (ih h).imp_right (.tail _)

theorem Sorted.put {es : Entries} (h : es.Sorted) (p : Position) (n : UInt32) : (put p n es).Sorted := by
  induction es with
  | nil => exact List.pairwise_singleton _ _
  | cons d es ih =>
    obtain ⟨hd, hes⟩ := List.pairwise_cons.mp h
    unfold Entries.put
    split
    · next hp =>
      refine List.pairwise_cons.mpr ⟨fun e he => ?_, h⟩
      rcases List.mem_cons.mp he with rfl | he
      · exact hp
      · exact Position.lt_trans hp (hd e he)
    · next hp =>
      split
      · next hpd => exact List.pairwise_cons.mpr ⟨fun e he => hpd ▸ hd e he, hes⟩
      · next hpd =>
        refine List.pairwise_cons.mpr ⟨fun e he => ?_, ih hes⟩
        rcases mem_put he with rfl | he
        · exact Position.lt_of_not_lt hp hpd
        · exact hd e he

end Entries

structure Allocation where
  entries : Entries
  sorted : entries.Sorted
  positive : ∀ e ∈ entries, e.2 ≠ 0
deriving DecidableEq

def maxCount : Nat := UInt32.size - 1

def saturating (n : Nat) : UInt32 :=
  .ofNat (min n maxCount)

def saturatingSum (ns : List UInt32) : UInt32 :=
  ns.foldl (fun total n => saturating (total.toNat + n.toNat)) 0

namespace Allocation

@[ext] theorem ext {a b : Allocation} (h : a.entries = b.entries) : a = b := by
  cases a; cases b; cases h; rfl

def empty : Allocation where
  entries := []
  sorted := .nil
  positive := nofun

def set (a : Allocation) (p : Position) (n : UInt32) : Allocation :=
  if h : n = 0 then
    { entries := a.entries.erase p
      sorted := a.sorted.filter _
      positive := fun e he => a.positive e (List.mem_filter.mp he).1 }
  else
    { entries := a.entries.put p n
      sorted := a.sorted.put p n
      positive := fun e he => by
        rcases Entries.mem_put he with rfl | he
        · exact h
        · exact a.positive e he }

def ofEntries (es : Entries) : Allocation :=
  es.foldl (fun a e => a.set e.1 e.2) empty

def pointsAt (a : Allocation) (p : Position) : UInt32 :=
  (a.entries.lookup p).getD 0

def isEmpty (a : Allocation) : Bool :=
  a.entries.isEmpty

def totalPoints (a : Allocation) : UInt32 :=
  saturatingSum (a.entries.map (·.2))

def columnPoints (a : Allocation) (x : UInt32) : UInt32 :=
  saturatingSum ((a.entries.filter (·.1.x = x)).map (·.2))

def pointsBefore (a : Allocation) (x : UInt32) : UInt32 :=
  saturatingSum ((a.entries.filter (·.1.x < x)).map (·.2))

def pointsPerColumn : Nat := 3

def isUnlocked (a : Allocation) (x : UInt32) : Bool :=
  saturating (pointsPerColumn * x.toNat) ≤ a.pointsBefore x

def isSatisfied (a : Allocation) (t : Tree) : Option Position → Bool
  | none => true
  | some pre => match t.nodeAt? pre with
    | some n => n.maxPoints ≤ a.pointsAt pre
    | none => false

def canAllocate (a : Allocation) (t : Tree) (p : Position) : Bool :=
  match t.nodeAt? p with
  | some n => a.isUnlocked p.x && a.isSatisfied t n.prerequisite && a.pointsAt p < n.maxPoints
  | none => false

def canDeallocate (a : Allocation) (t : Tree) (p : Position) : Bool :=
  match t.nodeAt? p with
  | some n =>
    a.pointsAt p != 0 &&
      !((t.dependents p).any (a.pointsAt ·.position != 0) && n.maxPoints ≤ a.pointsAt p)
  | none => false

def allocate? (a : Allocation) (t : Tree) (p : Position) : Option Allocation :=
  if a.canAllocate t p then some (a.set p (a.pointsAt p + 1)) else none

def deallocate? (a : Allocation) (t : Tree) (p : Position) : Option Allocation :=
  if a.canDeallocate t p then some (a.set p (a.pointsAt p - 1)) else none

def ofValue? (v : Value) : Option Allocation :=
  ofEntries <$> Value.list? entry? v
where
  entry? (v : Value) : Option (Position × UInt32) := do
    let r ← Record.ofValue? .json [.plain "x", .plain "y", .plain "points"] v
    some (⟨← r.required? "x" Value.count?, ← r.required? "y" Value.count?⟩, ← r.required? "points" Value.count?)

def toValue (a : Allocation) : Value :=
  .list <| a.entries.map fun e =>
    .table [("x", .integer e.1.x.toNat), ("y", .integer e.1.y.toNat), ("points", .integer e.2.toNat)]

end Allocation
end CharacterBuild
