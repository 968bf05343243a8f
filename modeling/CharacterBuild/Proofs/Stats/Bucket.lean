import Mathlib
import CharacterBuild.Proofs.Pool.Order
import CharacterBuild.Proofs.Stats.Matching

/-! The total of a stat by buckets. The additional modifiers of one stackable are a bucket, whose sum counts once for each of
its stacks; adding modifier by modifier, in any order and in any parts, comes to the same. -/

namespace CharacterBuild

section Groups

variable {β κ : Type} [DecidableEq κ]

lemma sum_ite_eq_of_nodup {ks : List κ} (hnodup : ks.Nodup) {k : κ} (hk : k ∈ ks) (x : ℚ) :
    (ks.map fun k' => if k = k' then x else 0).sum = x := by
  rw [← List.sum_toFinset _ hnodup, Finset.sum_ite_eq, if_pos (List.mem_toFinset.mpr hk)]

lemma sum_eq_sum_groups {key : β → Option κ} {xs : List β} {ks : List κ} (f : β → ℚ) (hnodup : ks.Nodup)
    (hkeys : ∀ x ∈ xs, ∀ k ∈ key x, k ∈ ks) :
    (xs.map f).sum = ((xs.filter (key · = none)).map f).sum +
      (ks.map fun k => ((xs.filter (key · = some k)).map f).sum).sum := by
  induction xs with
  | nil => simp
  | cons x xs ih =>
    obtain ⟨hx, hxs⟩ := List.forall_mem_cons.mp hkeys
    rw [List.map_cons, List.sum_cons, ih hxs]
    cases hkey : key x with
    | none => simp [hkey, add_assoc]
    | some k =>
      have hgroups : (ks.map fun k' => (((x :: xs).filter (key · = some k')).map f).sum).sum =
          (ks.map fun k' => if k = k' then f x else 0).sum +
            (ks.map fun k' => ((xs.filter (key · = some k')).map f).sum).sum := by
        rw [← List.sum_map_add]
        refine congrArg List.sum (List.map_congr_left fun k' _ => ?_)
        by_cases hk : k = k' <;> simp [hkey, hk]
      have hkeyless : (x :: xs).filter (key · = none) = xs.filter (key · = none) :=
        List.filter_cons_of_neg (by simp [hkey])
      rw [hgroups, hkeyless, sum_ite_eq_of_nodup hnodup (hx k hkey), add_left_comm]

end Groups

/-- The stacks of a stackable that count: as many as are configured or else the limit, and never more than that. -/
def Configuration.stacksWithin (c : Configuration) (stackable : String) (limit : ℕ) : ℕ :=
  min (((c.counts.lookup stackable).map UInt32.toNat).getD limit) limit

abbrev Modifier.stackable? (m : Modifier ℚ) : Option String :=
  m.per.map (·.stackable)

namespace Bucket

variable {ms : List (Modifier ℚ)} {c : Configuration}

def stackables (ms : List (Modifier ℚ)) : List String :=
  (ms.filterMap Modifier.stackable?).dedup

def ofStackable (ms : List (Modifier ℚ)) (stackable : String) : List (Modifier ℚ) :=
  ms.filter (·.stackable? = some stackable)

def unstacked (ms : List (Modifier ℚ)) : List (Modifier ℚ) :=
  ms.filter (·.stackable? = none)

/-- A bucket has the limit of the first of its modifiers, which the others are to share. -/
def limit (ms : List (Modifier ℚ)) : ℕ :=
  ((ms.head?.bind (·.per)).map (·.limit.toNat)).getD 0

def additive (c : Configuration) (ms : List (Modifier ℚ)) : ℚ :=
  ((unstacked ms).map (·.value)).sum +
    ((stackables ms).map fun k =>
      ((ofStackable ms k).map (·.value)).sum * c.stacksWithin k (limit (ofStackable ms k))).sum

def layer (c : Configuration) (m : Modifier ℚ) : ℚ :=
  1 + m.value * (m.per.map fun per => (c.stacksWithin per.stackable per.limit.toNat : ℚ)).getD 1

def more (c : Configuration) (ms : List (Modifier ℚ)) : ℚ :=
  (ms.map (layer c)).prod

def total (c : Configuration) (ms : List (Modifier ℚ)) : Total ℚ :=
  ⟨additive c (ms.filter (·.additional)), more c (ms.filter (!·.additional))⟩

def SharesLimits (ms : List (Modifier ℚ)) : Prop :=
  ∀ m ∈ ms, ∀ m' ∈ ms, ∀ per ∈ m.per, ∀ per' ∈ m'.per, per.stackable = per'.stackable → per.limit = per'.limit

instance (ms : List (Modifier ℚ)) : Decidable (SharesLimits ms) :=
  inferInstanceAs (Decidable (∀ m ∈ ms, ∀ m' ∈ ms, ∀ per ∈ m.per, ∀ per' ∈ m'.per,
    per.stackable = per'.stackable → per.limit = per'.limit))

end Bucket

lemma toNat_min (x y : UInt32) : (min x y).toNat = min x.toNat y.toNat := by
  change (if x ≤ y then x else y).toNat = _
  split
  · next h => exact (min_eq_left (UInt32.le_iff_toNat_le.mp h)).symm
  · next h => exact (min_eq_right (Nat.le_of_not_le (mt UInt32.le_iff_toNat_le.mpr h))).symm

/-- The limit stands in for a count and bounds it again, both times as one. -/
lemma Configuration.min_stackCount (c : Configuration) (per : Stacking) :
    min (c.stackCount per).toNat per.limit.toNat = c.stacksWithin per.stackable per.limit.toNat := by
  rw [stackCount, stacksWithin, toNat_min, min_assoc, min_self]
  cases c.counts.lookup per.stackable <;> rfl

namespace Pool

variable {p : Pool ℚ} {ms : List (Modifier ℚ)} {m : Modifier ℚ}

lemma effectiveValue_unstacked (h : m.per = none) : p.effectiveValue m = m.value := by
  rw [effectiveValue, h]

lemma effectiveValue_stacked {per : Stacking} (h : m.per = some per) :
    p.effectiveValue m = m.value * p.configuration.stacksWithin per.stackable per.limit.toNat := by
  rw [effectiveValue, h]
  dsimp only
  rw [Modifier.stackedValue, h]
  dsimp only
  rw [Configuration.min_stackCount]

lemma layer_eq (p : Pool ℚ) (m : Modifier ℚ) : 1 + p.effectiveValue m = Bucket.layer p.configuration m := by
  cases h : m.per with
  | none => simp [Bucket.layer, effectiveValue_unstacked h, h]
  | some per => simp [Bucket.layer, effectiveValue_stacked h, h]

end Pool

namespace Bucket

variable {p : Pool ℚ}

lemma exists_of_mem_ofStackable {k : String} {m : Modifier ℚ} (h : m ∈ ofStackable ms k) :
    m ∈ ms ∧ ∃ per, m.per = some per ∧ per.stackable = k := by
  obtain ⟨hm, hk⟩ := List.mem_filter.mp h
  exact ⟨hm, Option.map_eq_some_iff.mp (of_decide_eq_true hk)⟩

lemma SharesLimits.limit_eq (hshared : SharesLimits ms) {k : String} {m : Modifier ℚ} {per : Stacking}
    (hm : m ∈ ofStackable ms k) (hper : m.per = some per) : limit (ofStackable ms k) = per.limit.toNat := by
  obtain ⟨first, hfirst⟩ := Option.ne_none_iff_exists'.mp (mt List.head?_eq_none_iff.mp (List.ne_nil_of_mem hm))
  obtain ⟨hmem, per', hper', hk'⟩ := exists_of_mem_ofStackable (List.mem_of_head? hfirst)
  obtain ⟨hmem', per'', hper'', hk⟩ := exists_of_mem_ofStackable hm
  obtain rfl := Option.some.inj (hper.symm.trans hper'')
  rw [limit, hfirst, Option.bind_some, hper']
  exact congrArg UInt32.toNat (hshared _ hmem _ hmem' _ hper' _ hper (hk'.trans hk.symm))

lemma SharesLimits.sum_ofStackable (hshared : SharesLimits ms) (p : Pool ℚ) (k : String) :
    ((ofStackable ms k).map p.effectiveValue).sum =
      ((ofStackable ms k).map (·.value)).sum * p.configuration.stacksWithin k (limit (ofStackable ms k)) := by
  rw [← List.sum_map_mul_right]
  refine congrArg List.sum (List.map_congr_left fun m hm => ?_)
  obtain ⟨_, per, hper, rfl⟩ := exists_of_mem_ofStackable hm
  rw [hshared.limit_eq hm hper, Pool.effectiveValue_stacked hper]

lemma sum_unstacked (p : Pool ℚ) (ms : List (Modifier ℚ)) :
    ((unstacked ms).map p.effectiveValue).sum = ((unstacked ms).map (·.value)).sum := by
  refine congrArg List.sum (List.map_congr_left fun m hm => Pool.effectiveValue_unstacked ?_)
  exact Option.map_eq_none_iff.mp (of_decide_eq_true (List.mem_filter.mp hm).2)

lemma SharesLimits.sum_effectiveValue (hshared : SharesLimits ms) (p : Pool ℚ) :
    (ms.map p.effectiveValue).sum = additive p.configuration ms := by
  have hkeys : ∀ m ∈ ms, ∀ k ∈ m.stackable?, k ∈ stackables ms := fun m hm k hk =>
    List.mem_dedup.mpr (List.mem_filterMap.mpr ⟨m, hm, hk⟩)
  rw [sum_eq_sum_groups p.effectiveValue (List.nodup_dedup _) hkeys]
  exact congrArg₂ (· + ·) (sum_unstacked p ms)
    (congrArg List.sum (List.map_congr_left fun k _ => hshared.sum_ofStackable p k))

end Bucket

namespace Pool

variable {p : Pool ℚ} {xs ys : List (Modifier ℚ)}

lemma resolve_append (c : Configuration) (s : Stat) (scopes : List Scope) :
    resolve ⟨xs ++ ys, c⟩ s scopes =
      ⟨(resolve ⟨xs, c⟩ s scopes).additive + (resolve ⟨ys, c⟩ s scopes).additive,
        (resolve ⟨xs, c⟩ s scopes).more * (resolve ⟨ys, c⟩ s scopes).more⟩ := by
  simp only [resolve_eq, additional, layers, matching_append, List.filter_append, List.map_append, List.sum_append,
    List.prod_append]
  rfl

theorem resolve_eq_buckets (p : Pool ℚ) (s : Stat) (scopes : List Scope) :
    (Bucket.SharesLimits ((p.matching s scopes).filter (·.additional)) →
      p.resolve s scopes = Bucket.total p.configuration (p.matching s scopes)) ∧
    (p.resolve s scopes).multiplier = (1 + (p.resolve s scopes).additive) * (p.resolve s scopes).more ∧
    ∀ xs ys, p.modifiers.Perm (xs ++ ys) →
      (p.resolve s scopes).additive =
          (resolve ⟨xs, p.configuration⟩ s scopes).additive + (resolve ⟨ys, p.configuration⟩ s scopes).additive ∧
        (p.resolve s scopes).more =
          (resolve ⟨xs, p.configuration⟩ s scopes).more * (resolve ⟨ys, p.configuration⟩ s scopes).more := by
  refine ⟨fun hshared => ?_, rfl, fun xs ys hperm => ?_⟩
  · rw [resolve_eq]
    refine congrArg₂ Total.mk (hshared.sum_effectiveValue p) (congrArg List.prod ?_)
    exact List.map_congr_left fun m _ => p.layer_eq m
  · have hreorders : p.Reorders ⟨xs ++ ys, p.configuration⟩ := ⟨hperm, rfl⟩
    rw [hreorders.resolve_eq, resolve_append]
    exact ⟨rfl, rfl⟩

def fervor (value : ℚ) : Modifier ℚ where
  effect := .damage
  value := value
  additional := true
  per := some ⟨"Fervor", 4⟩

def focus : Modifier ℚ where
  effect := .damage
  value := 1 / 2
  per := some ⟨"Focus", 2⟩

def wrath : Modifier ℚ where
  effect := .damage
  value := 1 / 5
  additional := true

def fervent : Pool ℚ where
  modifiers := [fervor (1 / 10), focus, wrath, fervor (1 / 20)]
  configuration := ⟨[("Fervor", 3)], []⟩

theorem fervent_resolve_eq_buckets :
    Bucket.SharesLimits ((fervent.matching .damage [.spell]).filter (·.additional)) ∧
      fervent.resolve .damage [.spell] = ⟨1 / 5 + (1 / 10 + 1 / 20) * 3, 1 + 1 / 2 * 2⟩ ∧
      (fervent.resolve .damage [.spell]).multiplier = 33 / 10 ∧
      fervent.modifiers.Perm ([fervor (1 / 10), wrath] ++ [focus, fervor (1 / 20)]) ∧
      (resolve ⟨[fervor (1 / 10), wrath], fervent.configuration⟩ .damage [.spell]).additive +
        (resolve ⟨[focus, fervor (1 / 20)], fervent.configuration⟩ .damage [.spell]).additive = 13 / 20 := by
  obtain ⟨hbuckets, hmultiplier, hparts⟩ := resolve_eq_buckets fervent .damage [.spell]
  have hshared : Bucket.SharesLimits ((fervent.matching .damage [.spell]).filter (·.additional)) := by decide +kernel
  have htotal : Bucket.total fervent.configuration (fervent.matching .damage [.spell]) =
      ⟨1 / 5 + (1 / 10 + 1 / 20) * 3, 1 + 1 / 2 * 2⟩ := by decide +kernel
  have hperm : fervent.modifiers.Perm ([fervor (1 / 10), wrath] ++ [focus, fervor (1 / 20)]) := by decide +kernel
  have hresolve := (hbuckets hshared).trans htotal
  refine ⟨hshared, hresolve, ?_, hperm, ?_⟩
  · rw [hmultiplier, hresolve]
    norm_num
  · rw [← (hparts _ _ hperm).1, hresolve]
    norm_num

end Pool
end CharacterBuild
