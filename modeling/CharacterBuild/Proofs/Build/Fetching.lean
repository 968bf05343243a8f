import CharacterBuild.Build.Loadout
import CharacterBuild.Proofs.Talent.Cache

/-! Trees are all that a save needs from outside. A page asks for a tree that is neither kept nor on a page before it, the
first page to ask in vain fails, and what was fetched before it stays. -/

namespace CharacterBuild

/-! ## Fetches told of -/

namespace Notice

def fetched? : Notice → Option TreeName
  | fetchingTree t => some t
  | _ => none

def fetched (ns : List Notice) : List TreeName :=
  ns.filterMap fetched?

section Fetched

variable {τ : Type}

lemma fetched_append (ns ms : List Notice) : fetched (ns ++ ms) = fetched ns ++ fetched ms :=
  List.filterMap_append

lemma fetched_map {f : τ → Notice} (h : ∀ x, (f x).fetched? = none) (xs : List τ) : fetched (xs.map f) = [] := by
  rw [fetched, List.filterMap_map, List.filterMap_eq_nil_iff]
  exact fun x _ => h x

lemma fetched_flatMap {f : τ → List Notice} (h : ∀ x, fetched (f x) = []) (xs : List τ) : fetched (xs.flatMap f) = [] := by
  rw [fetched, List.filterMap_flatMap, List.flatMap_eq_nil_iff]
  exact fun x _ => h x

lemma fetched_load {ε : Type} (c : TreeCache) (fetch : Fetcher ε) (t : TreeName) :
    fetched (c.load fetch t).notices = if c.contains t then [] else [t] := by
  rw [TreeCache.contains]
  cases hkept : c.get? t with
  | some tree => simp [TreeCache.load_of_get? hkept, fetched]
  | none => simp [(TreeCache.load_of_not_kept hkept).2, fetched, fetched?]

lemma mem_fetched_load_iff {ε : Type} {c : TreeCache} (fetch : Fetcher ε) {t u : TreeName} :
    u ∈ fetched (c.load fetch t).notices ↔ u = t ∧ c.get? t = none := by
  rw [fetched_load, TreeCache.contains]
  cases c.get? t <;> simp

lemma fetched_allocationNotices (t : TreeName) (tree : Tree) (a : Allocation) :
    fetched (CleanUp.allocationNotices t tree a) = [] := by
  refine fetched_flatMap (fun e => ?_) a.entries
  split
  · split <;> rfl
  · rfl

lemma fetched_supportNotices (skill : String) (ss : List SupportSkill) : fetched (CleanUp.supportNotices skill ss) = [] := by
  rw [CleanUp.supportNotices, fetched_append, fetched_map fun _ => rfl]
  split <;> rfl

lemma fetched_skillNotices (role : SkillRole) (limit : ℕ) (ss : List SkillUse) :
    fetched (CleanUp.skillNotices role limit ss) = [] := by
  have hsupports (xs : List SkillUse) : fetched (xs.flatMap fun s => CleanUp.supportNotices s.name s.supports) = [] :=
    fetched_flatMap (fun s => fetched_supportNotices s.name s.supports) xs
  rw [CleanUp.skillNotices, fetched_append, fetched_append, fetched_map fun _ => rfl, hsupports]
  split <;> rfl

lemma fetched_prismNotices (p : Prism) : fetched (CleanUp.prismNotices p) = [] := by
  rw [CleanUp.prismNotices, fetched_append, fetched_flatMap fun r => by split <;> rfl]
  split <;> rfl

lemma fetched_assemblyNotices {α : Type} (s : Save α) : fetched (Loadout.assemblyNotices s) = [] := by
  have hgear : fetched (CleanUp.gearNotices s.gear) = [] := fetched_map (fun _ => rfl) _
  have hprisms : fetched (s.prisms.flatMap CleanUp.prismNotices) = [] := fetched_flatMap fetched_prismNotices _
  simp only [Loadout.assemblyNotices, fetched_append, hgear, fetched_skillNotices, hprisms, List.append_nil]

end Fetched
end Notice

open Notice

/-! ## Pages that ask -/

variable {ε : Type} {fetch : ℕ → Fetcher ε} {f g : Fetcher ε} {c : TreeCache} {ts : List TreeName} {t t₀ u : TreeName}
  {tree : Tree} {e : ε} {i n : ℕ}

/-- The first page with the tree asks for it, unless it is kept. -/
@[mk_iff]
structure Asks (c : TreeCache) (ts : List TreeName) (i : ℕ) (t : TreeName) : Prop where
  absent : c.get? t = none
  mem : t ∈ ts
  first : ts.idxOf t = i

/-- The page asks, and none before it asks in vain. The fetcher at each page is as it is by then. -/
structure Fetches (fetch : ℕ → Fetcher ε) (c : TreeCache) (ts : List TreeName) (i : ℕ) (t : TreeName) : Prop where
  asks : Asks c ts i t
  reached : ∀ j < i, ∀ u, Asks c ts j u → ∃ tree, fetch j u = .ok tree

lemma not_asks_nil : ¬ Asks c [] i t :=
  fun h => List.not_mem_nil h.mem

lemma Asks.eq_of_asks (h : Asks c ts i t) (hu : Asks c ts i u) : u = t :=
  (List.idxOf_inj hu.mem).mp (hu.first.trans h.first.symm)

lemma asks_zero : Asks c (t₀ :: ts) 0 t ↔ t = t₀ ∧ c.get? t₀ = none := by
  rw [asks_iff]
  by_cases ht : t = t₀
  · simp [ht]
  · simp [ht, List.idxOf_cons_ne ts (Ne.symm ht)]

lemma asks_succ (h : (c.load f t₀).result = .ok tree) : Asks c (t₀ :: ts) (i + 1) t ↔ Asks (c.load f t₀).cache ts i t := by
  rw [asks_iff, asks_iff, TreeCache.get?_load_eq_none_iff h]
  by_cases ht : t = t₀
  · simp [ht]
  · simp [ht, List.idxOf_cons_ne ts (Ne.symm ht)]

lemma fetches_zero : Fetches fetch c (t₀ :: ts) 0 t ↔ t = t₀ ∧ c.get? t₀ = none := by
  rw [← asks_zero]
  exact ⟨Fetches.asks, fun h => ⟨h, fun j hj => absurd hj (Nat.not_lt_zero j)⟩⟩

lemma not_fetches_succ (h : (c.load (fetch 0) t₀).result = .error e) : ¬ Fetches fetch c (t₀ :: ts) (i + 1) t := by
  intro hfetches
  obtain ⟨hnone, hfailed⟩ := TreeCache.load_eq_error_iff.mp h
  obtain ⟨tree, htree⟩ := hfetches.reached 0 i.succ_pos t₀ (asks_zero.mpr ⟨rfl, hnone⟩)
  rw [hfailed] at htree
  cases htree

lemma fetches_succ (h : (c.load (fetch 0) t₀).result = .ok tree) :
    Fetches fetch c (t₀ :: ts) (i + 1) t ↔ Fetches (fun i => fetch (i + 1)) (c.load (fetch 0) t₀).cache ts i t := by
  constructor
  · rintro ⟨hasks, hreached⟩
    exact ⟨(asks_succ h).mp hasks, fun j hj u hu => hreached (j + 1) (Nat.succ_lt_succ hj) u ((asks_succ h).mpr hu)⟩
  · rintro ⟨hasks, hreached⟩
    refine ⟨(asks_succ h).mpr hasks, fun j hj u hu => ?_⟩
    cases j with
    | zero =>
      obtain ⟨rfl, hnone⟩ := asks_zero.mp hu
      exact ⟨tree, (TreeCache.load_of_not_kept hnone).1.symm.trans h⟩
    | succ j => exact hreached j (Nat.lt_of_succ_lt_succ hj) u ((asks_succ h).mp hu)

/-! ## Loads -/

namespace TalentPage

variable {p : SavedPage} {ps qs : List SavedPage}

def names (ps : List SavedPage) : List TreeName :=
  ps.map (·.tree)

lemma load_cons_of_error (h : (c.load f p.tree).result = .error e) :
    load f c (p :: ps) = ⟨.error e, c, (c.load f p.tree).notices⟩ := by
  obtain ⟨hnone, hfetch⟩ := TreeCache.load_eq_error_iff.mp h
  rw [load, TreeCache.load_of_error hnone hfetch]

lemma load_cons_of_ok (h : (c.load f p.tree).result = .ok tree) :
    let first := c.load f p.tree
    let rest := load f first.cache ps
    load f c (p :: ps) = ⟨(⟨p.tree, tree, CleanUp.allocation tree p.allocated⟩ :: ·) <$> rest.result, rest.cache,
      first.notices ++ CleanUp.allocationNotices p.tree tree p.allocated ++ rest.notices⟩ := by
  rw [load]
  rcases hload : c.load f p.tree with ⟨result, c', told⟩
  rw [hload] at h
  cases h
  rfl

def loadOver (fetch : ℕ → Fetcher ε) : TreeCache → List SavedPage → Outcome ε (List TalentPage)
  | c, [] => load (fetch 0) c []
  | c, p :: ps =>
    let first := load (fetch 0) c [p]
    match first.result with
    | .error e => ⟨.error e, first.cache, first.notices⟩
    | .ok pages =>
      let rest := loadOver (fun i => fetch (i + 1)) first.cache ps
      ⟨(pages ++ ·) <$> rest.result, rest.cache, first.notices ++ rest.notices⟩

lemma loadOver_cons_of_error (h : (c.load (fetch 0) p.tree).result = .error e) :
    loadOver fetch c (p :: ps) = ⟨.error e, c, (c.load (fetch 0) p.tree).notices⟩ := by
  rw [loadOver, load_cons_of_error h]

lemma loadOver_cons_of_ok (h : (c.load (fetch 0) p.tree).result = .ok tree) :
    let first := c.load (fetch 0) p.tree
    let rest := loadOver (fun i => fetch (i + 1)) first.cache ps
    loadOver fetch c (p :: ps) = ⟨(⟨p.tree, tree, CleanUp.allocation tree p.allocated⟩ :: ·) <$> rest.result, rest.cache,
      first.notices ++ CleanUp.allocationNotices p.tree tree p.allocated ++ rest.notices⟩ := by
  rw [loadOver, load_cons_of_ok h]
  simp only [load, List.append_nil]
  rfl

lemma load_congr (h : ∀ t ∈ names ps, c.get? t = none → f t = g t) : load f c ps = load g c ps := by
  induction ps generalizing c with
  | nil => rfl
  | cons p ps ih =>
    have hfirst : c.load f p.tree = c.load g p.tree := TreeCache.load_congr (h p.tree List.mem_cons_self)
    cases hresult : (c.load f p.tree).result with
    | error e => rw [load_cons_of_error hresult, load_cons_of_error (hfirst ▸ hresult), hfirst]
    | ok tree =>
      have hrest : load f (c.load f p.tree).cache ps = load g (c.load f p.tree).cache ps :=
        ih fun t ht hnone => h t (List.mem_cons_of_mem _ ht) ((TreeCache.get?_load_eq_none_iff hresult).mp hnone).1
      rw [load_cons_of_ok hresult, load_cons_of_ok (hfirst ▸ hresult), ← hfirst, hrest]

/-- No tree is asked for twice, so the fetcher may as well answer always as it does on the first page with the tree. -/
lemma loadOver_eq_load (fetch : ℕ → Fetcher ε) (c : TreeCache) (ps : List SavedPage) :
    loadOver fetch c ps = load (fun t => fetch ((names ps).idxOf t) t) c ps := by
  induction ps generalizing fetch c with
  | nil => rfl
  | cons p ps ih =>
    have hfirst : c.load (fun t => fetch ((names (p :: ps)).idxOf t) t) p.tree = c.load (fetch 0) p.tree :=
      TreeCache.load_congr fun _ => by rw [names, List.map_cons, List.idxOf_cons_self]
    cases hresult : (c.load (fetch 0) p.tree).result with
    | error e => rw [loadOver_cons_of_error hresult, load_cons_of_error (hfirst ▸ hresult), hfirst]
    | ok tree =>
      rw [loadOver_cons_of_ok hresult, load_cons_of_ok (hfirst ▸ hresult), hfirst, ih]
      have hrest : load (fun t => fetch ((names ps).idxOf t + 1) t) (c.load (fetch 0) p.tree).cache ps =
          load (fun t => fetch ((names (p :: ps)).idxOf t) t) (c.load (fetch 0) p.tree).cache ps := by
        refine load_congr fun t _ hnone => ?_
        have hne : t ≠ p.tree := ((TreeCache.get?_load_eq_none_iff hresult).mp hnone).2
        rw [names, names, List.map_cons, List.idxOf_cons_ne _ hne.symm]
      rw [hrest]

lemma result_loadOver_eq_error_iff : (loadOver fetch c ps).result = .error e ↔
    ∃ i t, Fetches fetch c (names ps) i t ∧ fetch i t = .error e := by
  induction ps generalizing fetch c with
  | nil => exact iff_of_false nofun fun ⟨i, t, h, _⟩ => not_asks_nil h.asks
  | cons p ps ih =>
    rw [names, List.map_cons, ← names, ← Nat.or_exists_add_one]
    cases hload : (c.load (fetch 0) p.tree).result with
    | error e₀ =>
      rw [loadOver_cons_of_error hload]
      obtain ⟨hnone, hfetch⟩ := TreeCache.load_eq_error_iff.mp hload
      simp [fetches_zero, not_fetches_succ hload, hnone, hfetch]
    | ok tree =>
      rw [loadOver_cons_of_ok hload]
      have hfirst : ¬ ∃ t, Fetches fetch c (p.tree :: names ps) 0 t ∧ fetch 0 t = .error e := by
        rintro ⟨t, hfetches, herror⟩
        obtain ⟨rfl, hnone⟩ := fetches_zero.mp hfetches
        rw [(TreeCache.load_of_not_kept hnone).1, herror] at hload
        cases hload
      simp only [fetches_succ hload, ← ih]
      rw [or_iff_right hfirst]
      cases (loadOver (fun i => fetch (i + 1)) (c.load (fetch 0) p.tree).cache ps).result <;> simp

lemma get?_loadOver_iff : (loadOver fetch c ps).cache.get? t = some tree ↔
    c.get? t = some tree ∨ ∃ i, Fetches fetch c (names ps) i t ∧ fetch i t = .ok tree := by
  induction ps generalizing fetch c with
  | nil =>
    refine ⟨.inl, ?_⟩
    rintro (hkept | ⟨i, hfetches, _⟩)
    · exact hkept
    · exact absurd hfetches.asks not_asks_nil
  | cons p ps ih =>
    rw [names, List.map_cons, ← names, ← Nat.or_exists_add_one]
    cases hload : (c.load (fetch 0) p.tree).result with
    | error e₀ =>
      rw [loadOver_cons_of_error hload]
      obtain ⟨hnone, hfetch⟩ := TreeCache.load_eq_error_iff.mp hload
      have hfirst : ¬ (t = p.tree ∧ fetch 0 t = .ok tree) := by
        rintro ⟨rfl, hok⟩
        rw [hfetch] at hok
        cases hok
      simp [fetches_zero, not_fetches_succ hload, hnone, hfirst]
    | ok tree =>
      rw [loadOver_cons_of_ok hload]
      simp only [fetches_succ hload, fetches_zero, ih, TreeCache.get?_load_iff]
      rw [or_assoc]
      refine or_congr_right (or_congr_left ?_)
      constructor
      · rintro ⟨rfl, hnone, hfetch⟩
        exact ⟨⟨rfl, hnone⟩, hfetch⟩
      · rintro ⟨⟨rfl, hnone⟩, hfetch⟩
        exact ⟨rfl, hnone, hfetch⟩

lemma mem_fetched_loadOver_iff : t ∈ fetched (loadOver fetch c ps).notices ↔ ∃ i, Fetches fetch c (names ps) i t := by
  induction ps generalizing fetch c with
  | nil => exact iff_of_false nofun fun ⟨i, h⟩ => not_asks_nil h.asks
  | cons p ps ih =>
    rw [names, List.map_cons, ← names, ← Nat.or_exists_add_one, fetches_zero, ← mem_fetched_load_iff (fetch 0)]
    cases hload : (c.load (fetch 0) p.tree).result with
    | error e =>
      rw [loadOver_cons_of_error hload, or_iff_left fun ⟨i, h⟩ => not_fetches_succ hload h]
    | ok tree =>
      simp only [fetches_succ hload, ← ih, loadOver_cons_of_ok hload, fetched_append, fetched_allocationNotices,
        List.append_nil, List.mem_append]

lemma nodup_fetched_loadOver : (fetched (loadOver fetch c ps).notices).Nodup := by
  induction ps generalizing fetch c with
  | nil => exact .nil
  | cons p ps ih =>
    have hfirst : (fetched (c.load (fetch 0) p.tree).notices).Nodup := by
      rw [fetched_load]
      split <;> simp
    cases hload : (c.load (fetch 0) p.tree).result with
    | error e =>
      rw [loadOver_cons_of_error hload]
      exact hfirst
    | ok tree =>
      rw [loadOver_cons_of_ok hload, fetched_append, fetched_append, fetched_allocationNotices, List.append_nil]
      refine hfirst.append ih fun t ht hlater => ?_
      -- the tree of the first page is kept by the time that the others are loaded
      obtain ⟨rfl, _⟩ := (mem_fetched_load_iff _).mp ht
      obtain ⟨i, hfetches⟩ := mem_fetched_loadOver_iff.mp hlater
      have hkept := TreeCache.get?_load hload
      rw [hfetches.asks.absent] at hkept
      cases hkept

lemma loadOver_alike (fetch : ℕ → Fetcher ε) (c : TreeCache) (h : names ps = names qs) :
    (loadOver fetch c ps).cache = (loadOver fetch c qs).cache ∧
      fetched (loadOver fetch c ps).notices = fetched (loadOver fetch c qs).notices := by
  induction ps generalizing fetch c qs with
  | nil =>
    obtain rfl : qs = [] := List.map_eq_nil_iff.mp h.symm
    exact ⟨rfl, rfl⟩
  | cons p ps ih =>
    obtain ⟨q, qs, rfl, hpq, hrest⟩ := List.map_eq_cons_iff.mp h.symm
    replace hpq : q.tree = p.tree := hpq
    cases hload : (c.load (fetch 0) p.tree).result with
    | error e =>
      rw [loadOver_cons_of_error hload, loadOver_cons_of_error (hpq.symm ▸ hload), hpq]
      exact ⟨rfl, rfl⟩
    | ok tree =>
      obtain ⟨hcache, hfetched⟩ := ih (fun i => fetch (i + 1)) (c.load (fetch 0) p.tree).cache hrest.symm
      rw [loadOver_cons_of_ok hload, loadOver_cons_of_ok (hpq.symm ▸ hload), hpq]
      simp only [fetched_append, fetched_allocationNotices, hcache, hfetched, and_self]

lemma contains_loadOver_of_fails (h : Fetches fetch c (names ps) n t) (hfails : fetch n t = .error e) :
    (loadOver fetch c ps).cache.contains u = true ↔ c.contains u = true ∨ u ∈ (names ps).take n := by
  simp only [TreeCache.contains, Option.isSome_iff_exists, get?_loadOver_iff]
  constructor
  · rintro ⟨tree, hkept | ⟨i, hi, htree⟩⟩
    · exact .inl ⟨tree, hkept⟩
    · refine .inr ((List.mem_take_iff_idxOf_lt hi.asks.mem).mpr ?_)
      rw [hi.asks.first]
      by_contra hnot
      -- no page after the failure is reached, and the one that fails gets no tree
      rcases Nat.eq_or_lt_of_not_lt hnot with rfl | hlt
      · rw [hi.asks.eq_of_asks h.asks, htree] at hfails
        cases hfails
      · obtain ⟨tree, hok⟩ := hi.reached n hlt t h.asks
        rw [hfails] at hok
        cases hok
  · rintro (⟨tree, hkept⟩ | hmem)
    · exact ⟨tree, .inl hkept⟩
    · cases hkept : c.get? u with
      | some tree => exact ⟨tree, .inl rfl⟩
      | none =>
        have hu := List.mem_of_mem_take hmem
        have hlt := (List.mem_take_iff_idxOf_lt hu).mp hmem
        have hasks : Asks c (names ps) ((names ps).idxOf u) u := ⟨hkept, hu, rfl⟩
        obtain ⟨tree, htree⟩ := h.reached _ hlt u hasks
        exact ⟨tree, .inr ⟨_, ⟨hasks, fun j hj => h.reached j (hj.trans hlt)⟩, htree⟩⟩

end TalentPage

/-! ## Builds -/

namespace Loadout

variable {α : Type} {s s' : Save α} {pages : Outcome ε (List TalentPage)}

def finish (s : Save α) (pages : Outcome ε (List TalentPage)) : Outcome ε (Loadout α) :=
  match pages.result with
  | .error e => ⟨.error e, pages.cache, pages.notices⟩
  | .ok talents => ⟨.ok (assemble s talents), pages.cache, pages.notices ++ assemblyNotices s⟩

lemma ofSave_eq_finish (f : Fetcher ε) (c : TreeCache) (s : Save α) : ofSave f c s = finish s (TalentPage.load f c s.talents) :=
  rfl

lemma result_finish_eq_error_iff : (finish s pages).result = .error e ↔ pages.result = .error e := by
  rw [finish]
  cases pages.result <;> simp

lemma cache_finish : (finish s pages).cache = pages.cache := by
  rw [finish]
  cases pages.result <;> rfl

lemma fetched_finish : fetched (finish s pages).notices = fetched pages.notices := by
  rw [finish]
  cases pages.result with
  | error e => rfl
  | ok talents => rw [fetched_append, fetched_assemblyNotices, List.append_nil]

def ofSaveOver (fetch : ℕ → Fetcher ε) (c : TreeCache) (s : Save α) : Outcome ε (Loadout α) :=
  finish s (TalentPage.loadOver fetch c s.talents)

def trees (s : Save α) : List TreeName :=
  TalentPage.names s.talents

/-- Whatever a fetcher answers from page to page, a build fails at the first page that asks in vain and for no other reason.
Nothing in the save but the trees of its pages is of matter to that. -/
theorem only_trees_fail (fetch : ℕ → Fetcher ε) (c : TreeCache) (s : Save α) :
    let o := ofSaveOver fetch c s
    o = ofSave (fun t => fetch ((trees s).idxOf t) t) c s ∧
    (∀ e, o.result = .error e ↔ ∃ n t, Fetches fetch c (trees s) n t ∧ fetch n t = .error e) ∧
    (∀ t tree, o.cache.get? t = some tree ↔
      c.get? t = some tree ∨ ∃ i, Fetches fetch c (trees s) i t ∧ fetch i t = .ok tree) ∧
    (∀ n t e, Fetches fetch c (trees s) n t → fetch n t = .error e →
      ∀ u, o.cache.contains u = true ↔ c.contains u = true ∨ u ∈ (trees s).take n) ∧
    (∀ t, t ∈ fetched o.notices ↔ ∃ i, Fetches fetch c (trees s) i t) ∧ (fetched o.notices).Nodup ∧
    ∀ s' : Save α, trees s' = trees s → let o' := ofSaveOver fetch c s'
      (∀ e, o'.result = .error e ↔ o.result = .error e) ∧ o'.cache = o.cache ∧ fetched o'.notices = fetched o.notices := by
  refine ⟨?_, fun e => ?_, fun t tree => ?_, fun n t e hfetches hfails u => ?_, fun t => ?_, ?_, fun s' hsame => ?_⟩
  · rw [ofSaveOver, TalentPage.loadOver_eq_load, ofSave_eq_finish]
    rfl
  · rw [ofSaveOver, result_finish_eq_error_iff]
    exact TalentPage.result_loadOver_eq_error_iff
  · rw [ofSaveOver, cache_finish]
    exact TalentPage.get?_loadOver_iff
  · rw [ofSaveOver, cache_finish]
    exact TalentPage.contains_loadOver_of_fails hfetches hfails
  · rw [ofSaveOver, fetched_finish]
    exact TalentPage.mem_fetched_loadOver_iff
  · rw [ofSaveOver, fetched_finish]
    exact TalentPage.nodup_fetched_loadOver
  · obtain ⟨hcache, hfetched⟩ := TalentPage.loadOver_alike fetch c hsame
    simp only [ofSaveOver, result_finish_eq_error_iff, cache_finish, fetched_finish, hcache, hfetched, and_true]
    intro e
    rw [TalentPage.result_loadOver_eq_error_iff, TalentPage.result_loadOver_eq_error_iff]
    exact (congrArg (fun ts => ∃ i t, Fetches fetch c ts i t ∧ fetch i t = .error e) hsame).to_iff

example :
    let fetch : ℕ → Fetcher LoadError := fun i t => if i < 2 then .ok ⟨Named.name t, []⟩ else .error (.parse "")
    let o := TalentPage.loadOver fetch .empty ([.warlock, .warlock, .lich, .magister].map (⟨·, .empty⟩))
    o.cache.names = [.warlock] ∧ fetched o.notices = [.warlock, .lich] :=
  ⟨rfl, rfl⟩

end Loadout
end CharacterBuild
