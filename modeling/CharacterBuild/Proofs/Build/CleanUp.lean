import Mathlib
import CharacterBuild.Build.Loadout
import CharacterBuild.Proofs.Build.Selection
import CharacterBuild.Proofs.Talent.Points

/-! What clean-up leaves of a save: some entries of its lists in their order, no two with one key, and points that fit the
tree. What fits is left as it is, and nothing is told of it. -/

namespace CharacterBuild

def Tree.room (t : Tree) (p : Position) : UInt32 :=
  match t.nodeAt? p with
  | some n => n.maxPoints
  | none => 0

def Allocation.FitsIn (a : Allocation) (t : Tree) : Prop :=
  ∀ p, a.pointsAt p ≤ t.room p

lemma Allocation.FitsIn.exists_node {a : Allocation} {t : Tree} {e : Position × UInt32} (h : a.FitsIn t)
    (he : e ∈ a.entries) : ∃ n, t.nodeAt? e.1 = some n ∧ e.2 ≤ n.maxPoints := by
  have hroom : e.2 ≤ t.room e.1 := pointsAt_of_mem he ▸ h e.1
  rw [Tree.room] at hroom
  cases hn : t.nodeAt? e.1 with
  | some n =>
    rw [hn] at hroom
    exact ⟨n, rfl, hroom⟩
  | none =>
    rw [hn] at hroom
    exact absurd (UInt32.le_zero_iff.mp hroom) (a.positive e he)

namespace CleanUp

section Firsts

variable {τ κ : Type} [DecidableEq κ] {key : τ → κ} {seen : List κ} {xs : List τ} {x : τ} {limit : ℕ}

lemma firsts_eq_selected (key : τ → κ) (seen : List κ) (xs : List τ) :
    firsts key seen xs = selected (fun before x => key x ∉ seen ∧ key x ∉ before.map key) xs := by
  induction xs generalizing seen with
  | nil => rfl
  | cons x xs ih =>
    rw [firsts, selected_cons, ih, ih]
    by_cases hx : key x ∈ seen
    · rw [if_pos hx, if_neg fun h => h.1 hx]
      refine selected_congr (fun before y => and_congr_right fun hy => ?_) xs
      have hne : key y ≠ key x := fun heq => hy (heq ▸ hx)
      simp [hne]
    · rw [if_neg hx, if_pos ⟨hx, List.not_mem_nil⟩]
      refine congrArg (x :: ·) (selected_congr (fun before y => ?_) xs)
      simp only [List.mem_cons, List.map_cons, not_or]
      tauto

lemma firsts_sublist : (firsts key seen xs).Sublist xs := by
  rw [firsts_eq_selected]
  exact selected_sublist

lemma key_notMem_of_mem_firsts (h : x ∈ firsts key seen xs) : key x ∉ seen := by
  induction xs generalizing seen with
  | nil => cases h
  | cons y xs ih =>
    rw [firsts] at h
    split at h
    · exact ih h
    · next hy =>
      rcases List.mem_cons.mp h with rfl | h
      · exact hy
      · exact fun hx => ih h (.tail _ hx)

lemma nodup_firsts : ((firsts key seen xs).map key).Nodup := by
  induction xs generalizing seen with
  | nil => exact .nil
  | cons x xs ih =>
    rw [firsts]
    split
    · exact ih
    · refine List.nodup_cons.mpr ⟨fun hmem => ?_, ih⟩
      obtain ⟨y, hy, hkey⟩ := List.mem_map.mp hmem
      exact key_notMem_of_mem_firsts hy (hkey ▸ List.mem_cons_self)

lemma perm_firsts_append_repeats (key : τ → κ) (seen : List κ) (xs : List τ) :
    (firsts key seen xs ++ repeats key seen xs).Perm xs := by
  induction xs generalizing seen with
  | nil => exact .nil
  | cons x xs ih =>
    rw [firsts, repeats]
    split
    · exact List.perm_middle.trans ((ih _).cons x)
    · exact (ih _).cons x

lemma firsts_eq_self (h : (xs.map key).Nodup) (hseen : ∀ x ∈ xs, key x ∉ seen) : firsts key seen xs = xs := by
  induction xs generalizing seen with
  | nil => rfl
  | cons x xs ih =>
    obtain ⟨hx, hxs⟩ := List.nodup_cons.mp h
    rw [firsts, if_neg (hseen x List.mem_cons_self), ih hxs]
    intro y hy hmem
    rcases List.mem_cons.mp hmem with hkey | hmem
    · exact hx (hkey ▸ List.mem_map_of_mem hy)
    · exact hseen y (.tail _ hy) hmem

lemma repeats_eq_nil (h : (xs.map key).Nodup) : repeats key [] xs = [] := by
  have hlength := (perm_firsts_append_repeats key [] xs).length_eq
  rw [firsts_eq_self h (by simp), List.length_append] at hlength
  exact List.eq_nil_of_length_eq_zero (by omega)

structure Fits (key : τ → κ) (limit : ℕ) (xs : List τ) : Prop where
  distinct : (xs.map key).Nodup
  length_le : xs.length ≤ limit

lemma fits_take_firsts (limit : ℕ) (xs : List τ) : Fits key limit ((firsts key [] xs).take limit) :=
  ⟨nodup_firsts.sublist ((List.take_sublist _ _).map _), List.length_take_le _ _⟩

lemma Fits.firsts_eq (h : Fits key limit xs) : firsts key [] xs = xs :=
  firsts_eq_self h.distinct (by simp)

omit [DecidableEq κ] in
lemma Fits.take_eq (h : Fits key limit xs) : xs.take limit = xs :=
  List.take_of_length_le h.length_le

end Firsts

/-! ## Gear -/

section Gears

variable {α : Type} {gs : List (Gear α)}

lemma gear_eq_self (h : (gs.map (·.slot)).Nodup) : gear gs = gs :=
  firsts_eq_self h (by simp)

lemma gearNotices_eq_nil (h : (gs.map (·.slot)).Nodup) : gearNotices gs = [] := by
  rw [gearNotices, repeats_eq_nil h]
  rfl

end Gears

/-! ## Skills -/

section Skills

variable {ss : List SkillUse} {xs : List SupportSkill} {limit : ℕ}

lemma fits_supports (xs : List SupportSkill) : Fits (·.name) maxSupports (supports xs) :=
  fits_take_firsts _ _

lemma supports_eq_self (h : Fits (·.name) maxSupports xs) : supports xs = xs := by
  rw [supports, h.firsts_eq, h.take_eq]

lemma supportNotices_eq_nil (skill : String) (h : Fits (·.name) maxSupports xs) : supportNotices skill xs = [] := by
  rw [supportNotices, repeats_eq_nil h.distinct, h.firsts_eq]
  simp [h.length_le]

structure SkillsFit (limit : ℕ) (ss : List SkillUse) : Prop extends Fits (·.name) limit ss where
  supports : ∀ s ∈ ss, Fits (·.name) maxSupports s.supports

lemma nodup_skills (limit : ℕ) (ss : List SkillUse) : ((skills limit ss).map (·.name)).Nodup := by
  rw [skills, List.map_map]
  exact nodup_firsts.sublist ((List.take_sublist _ _).map _)

lemma skillsFit_skills (limit : ℕ) (ss : List SkillUse) : SkillsFit limit (skills limit ss) where
  distinct := nodup_skills limit ss
  length_le := by
    rw [skills, List.length_map]
    exact List.length_take_le _ _
  supports s hs := by
    obtain ⟨s, _, rfl⟩ := List.mem_map.mp hs
    exact fits_supports s.supports

lemma skills_eq_self (h : SkillsFit limit ss) : skills limit ss = ss := by
  rw [skills, h.firsts_eq, h.take_eq]
  have hsame : ∀ s ∈ ss, { s with supports := CleanUp.supports s.supports } = s := by
    intro s hs
    rw [supports_eq_self (h.supports s hs)]
  exact (List.map_congr_left hsame).trans (List.map_id ss)

lemma skillNotices_eq_nil (h : SkillsFit limit ss) (role : SkillRole) : skillNotices role limit ss = [] := by
  rw [skillNotices, repeats_eq_nil h.distinct, h.firsts_eq, h.take_eq]
  have hsupports : (ss.flatMap fun s => supportNotices s.name s.supports) = [] :=
    List.flatMap_eq_nil_iff.mpr fun s hs => supportNotices_eq_nil s.name (h.supports s hs)
  simp [h.length_le, hsupports]

end Skills

/-! ## Prisms -/

section Prisms

variable {r r' : Rarity} {n : ℕ} {gs : List Gauge} {p : Prism}

lemma capGauges_eq_selected (r : Rarity) (n : ℕ) (gs : List Gauge) : capGauges r n gs =
    selected (fun before g => g.rarity ≠ r ∨ before.countP (·.rarity = r) < n) gs := by
  fun_induction capGauges r n gs with
  | case1 => rfl
  | case2 g gs h ih =>
    rw [selected_cons, if_neg (by simp [h]), ih]
    exact selected_congr (fun before x => by simp) gs
  | case3 g gs h n ih =>
    rw [selected_cons, if_pos (by simp), ih]
    exact congrArg (g :: ·) (selected_congr (fun before x => by simp [h]) gs)
  | case4 n g gs h ih =>
    rw [selected_cons, if_pos (by simp [h]), ih]
    exact congrArg (g :: ·) (selected_congr (fun before x => by simp [h]) gs)

lemma filter_capGauges_self : (capGauges r n gs).filter (·.rarity = r) = (gs.filter (·.rarity = r)).take n := by
  fun_induction capGauges r n gs with
  | case1 => simp
  | case2 g gs h ih => simp [h, ih]
  | case3 g gs h n ih => simp [h, ih]
  | case4 n g gs h ih => simp [h, ih]

lemma filter_capGauges_of_ne (h : r' ≠ r) : (capGauges r n gs).filter (·.rarity = r') = gs.filter (·.rarity = r') := by
  rw [capGauges_eq_selected]
  refine filter_selected (fun _ g hg => .inl ?_) gs
  rwa [of_decide_eq_true hg]

lemma capGauges_eq_self (h : gs.countP (·.rarity = r) ≤ n) : capGauges r n gs = gs := by
  fun_induction capGauges r n gs with
  | case1 => rfl
  | case2 g gs hg ih => simp [hg] at h
  | case3 g gs hg n ih => rw [ih (by simpa [hg] using h)]
  | case4 n g gs hg ih => rw [ih (by simpa [hg] using h)]

structure PrismFits (p : Prism) : Prop where
  base : p.hasValidBase
  gauges : ∀ r, p.gaugeCount r ≤ p.maxGauges r

lemma hasValidBase_prism (p : Prism) : (prism p).hasValidBase := by
  by_cases h : p.hasValidBase
  · rw [prism, if_pos h]
    exact h
  · rw [prism, if_neg h]
    rfl

lemma filter_gauges_prism (p : Prism) (r : Rarity) :
    (prism p).gauges.filter (·.rarity = r) = (p.gauges.filter (·.rarity = r)).take (p.maxGauges r) := by
  cases r with
  | rare =>
    rw [prism, filter_capGauges_of_ne (by decide), filter_capGauges_self]
  | legendary => 
    rw [prism, filter_capGauges_self, filter_capGauges_of_ne (by decide)]

lemma prismFits_prism (p : Prism) : PrismFits (prism p) where
  base := hasValidBase_prism p
  gauges r := by
    rw [Prism.gaugeCount, List.countP_eq_length_filter, filter_gauges_prism]
    exact List.length_take_le _ _

lemma prism_eq_self (h : PrismFits p) : prism p = p := by
  have hrare := capGauges_eq_self (h.gauges .rare)
  have hlegendary := capGauges_eq_self (h.gauges .legendary)
  rw [prism, if_pos h.base, hrare, hlegendary]

lemma prismNotices_eq_nil (h : PrismFits p) : prismNotices p = [] := by
  rw [prismNotices, if_pos h.base]
  simp [(h.gauges _).not_gt]

end Prisms

/-! ## Allocations -/

section Allocations

variable {t : Tree} {a : Allocation} {e : Position × UInt32} {es : Entries}

lemma pointsAt_entry (h : a.pointsAt e.1 = 0) (p : Position) :
    (entry t a e).pointsAt p = if p = e.1 then min e.2 (t.room e.1) else a.pointsAt p := by
  rw [entry, Tree.room]
  cases t.nodeAt? e.1 with
  | some n => exact Allocation.pointsAt_set a e.1 p _
  | none =>
    have hnone : min e.2 0 = 0 := UInt32.le_zero_iff.mp Std.min_le_right
    by_cases hp : p = e.1
    · simp [hp, h, hnone]
    · simp [hp]

lemma pointsAt_foldl_entry (hsorted : es.Sorted) (h : ∀ e ∈ es, a.pointsAt e.1 = 0) (p : Position) :
    (es.foldl (entry t) a).pointsAt p =
      match es.lookup p with
      | some n => min n (t.room p)
      | none => a.pointsAt p := by
  induction es generalizing a with
  | nil => rfl
  | cons d es ih =>
    obtain ⟨hd, hes⟩ := List.pairwise_cons.mp hsorted
    obtain ⟨hfresh, h⟩ := List.forall_mem_cons.mp h
    have hlater : ∀ e ∈ es, (entry t a d).pointsAt e.1 = 0 := by
      intro e he
      rw [pointsAt_entry hfresh, if_neg (Position.ne_of_lt (hd e he)).symm, h e he]
    rw [List.foldl_cons, ih hes hlater, pointsAt_entry hfresh, Entries.lookup_cons]
    by_cases hp : p = d.1
    · have hnone : es.lookup p = none := by
        rw [List.lookup_eq_none_iff]
        intro e he
        simpa [hp] using Position.ne_of_lt (hd e he)
      rw [hnone, if_pos hp, if_pos hp, hp]
    · rw [if_neg hp, if_neg hp]

lemma pointsAt_allocation (t : Tree) (a : Allocation) (p : Position) :
    (allocation t a).pointsAt p = min (a.pointsAt p) (t.room p) := by
  rw [allocation, pointsAt_foldl_entry a.sorted (fun _ _ => rfl), Allocation.pointsAt_empty, Allocation.pointsAt]
  cases a.entries.lookup p with
  | some n => rfl
  | none => exact (if_pos UInt32.zero_le).symm

lemma fitsIn_allocation (t : Tree) (a : Allocation) : (allocation t a).FitsIn t := by
  intro p
  rw [pointsAt_allocation]
  exact Std.min_le_right

lemma allocation_eq_self (h : a.FitsIn t) : allocation t a = a := by
  apply Allocation.ext_pointsAt
  intro p
  rw [pointsAt_allocation]
  exact if_pos (h p)

lemma allocationNotices_eq_nil (h : a.FitsIn t) (name : TreeName) : allocationNotices name t a = [] := by
  rw [allocationNotices, List.flatMap_eq_nil_iff]
  intro e he
  obtain ⟨n, hn, hle⟩ := h.exists_node he
  rw [hn]
  exact if_neg (UInt32.not_lt.mpr hle)

end Allocations

end CleanUp

namespace Loadout

variable {α ε : Type} {fetch : Fetcher ε} {cache : TreeCache} {save : Save α} {l : Loadout α}

lemma pages_of_ofSave (h : (ofSave fetch cache save).result = .ok l) :
    (TalentPage.load fetch cache save.talents).result = .ok l.talents ∧ l = assemble save l.talents := by
  rw [ofSave] at h
  split at h
  · cases h
  · next talents hpages =>
    obtain rfl := Except.ok.inj h
    exact ⟨hpages, rfl⟩

lemma exists_of_ofSave (h : (ofSave fetch cache save).result = .ok l) : ∃ talents, l = assemble save talents :=
  ⟨l.talents, (pages_of_ofSave h).2⟩

lemma cache_ofSave : (ofSave fetch cache save).cache = (TalentPage.load fetch cache save.talents).cache := by
  rw [ofSave]
  split <;> rfl

end Loadout
end CharacterBuild
