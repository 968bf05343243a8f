import CharacterBuild.Proofs.Talent.Directory

/-! A cache of trees over fetchers that may change. A tree is kept from the first load that gets it, and from then on no
fetcher is asked for it; a failure leaves nothing behind. -/

namespace CharacterBuild

namespace TreeCache

variable {ε : Type} {c : TreeCache} {fetch : Fetcher ε} {t u : TreeName} {tree : Tree} {e : ε}

lemma load_of_get? (h : c.get? t = some tree) : c.load fetch t = ⟨.ok tree, c, []⟩ := by
  rw [load, h]

lemma load_of_error (h : c.get? t = none) (he : fetch t = .error e) :
    c.load fetch t = ⟨.error e, c, [.fetchingTree t]⟩ := by
  rw [load, h]
  dsimp only
  rw [he]

lemma load_of_ok (h : c.get? t = none) (hok : fetch t = .ok tree) :
    c.load fetch t = ⟨.ok tree, ⟨c.trees ++ [(t, tree)]⟩, [.fetchingTree t]⟩ := by
  rw [load, h]
  dsimp only
  rw [hok]

/-- What a load may do: answer from the cache, keep a tree that was fetched, or fail and keep nothing. -/
lemma load_cases (c : TreeCache) (fetch : Fetcher ε) (t : TreeName) :
    (∃ tree, c.get? t = some tree ∧ c.load fetch t = ⟨.ok tree, c, []⟩) ∨
      (∃ tree, c.get? t = none ∧ fetch t = .ok tree ∧
        c.load fetch t = ⟨.ok tree, ⟨c.trees ++ [(t, tree)]⟩, [.fetchingTree t]⟩) ∨
      ∃ e, c.get? t = none ∧ fetch t = .error e ∧ c.load fetch t = ⟨.error e, c, [.fetchingTree t]⟩ := by
  cases hkept : c.get? t with
  | some tree => exact .inl ⟨tree, rfl, load_of_get? hkept⟩
  | none =>
    cases hfetched : fetch t with
    | ok tree => exact .inr (.inl ⟨tree, rfl, rfl, load_of_ok hkept hfetched⟩)
    | error e => exact .inr (.inr ⟨e, rfl, rfl, load_of_error hkept hfetched⟩)

lemma get?_append (h : c.get? t = none) :
    (⟨c.trees ++ [(t, tree)]⟩ : TreeCache).get? u = if u = t then some tree else c.get? u := by
  rw [get?, List.lookup_append, ← get?]
  split
  · next hu =>
    rw [hu, h]
    exact List.lookup_cons_self
  · next hu =>
    have hnone : List.lookup u [(t, tree)] = none := by
      rw [List.lookup_cons, beq_false_of_ne hu]
      rfl
    rw [hnone, Option.or_none]

lemma load_congr {fetch' : Fetcher ε} (h : c.get? t = none → fetch t = fetch' t) : c.load fetch t = c.load fetch' t := by
  cases hkept : c.get? t with
  | some tree => rw [load_of_get? hkept, load_of_get? hkept]
  | none => rw [load, load, h hkept]

lemma load_eq_ok_iff :
    (c.load fetch t).result = .ok tree ↔ c.get? t = some tree ∨ c.get? t = none ∧ fetch t = .ok tree := by
  rcases load_cases c fetch t with ⟨kept, hkept, hload⟩ | ⟨fetched, hkept, hfetch, hload⟩ | ⟨e, hkept, hfetch, hload⟩
  · simp [hkept, hload]
  · simp [hkept, hfetch, hload]
  · simp [hkept, hfetch, hload]

lemma load_eq_error_iff : (c.load fetch t).result = .error e ↔ c.get? t = none ∧ fetch t = .error e := by
  rcases load_cases c fetch t with ⟨kept, hkept, hload⟩ | ⟨fetched, hkept, hfetch, hload⟩ | ⟨e, hkept, hfetch, hload⟩
  · simp [hkept, hload]
  · simp [hkept, hfetch, hload]
  · simp [hkept, hfetch, hload]

lemma load_of_not_kept (h : c.get? t = none) :
    (c.load fetch t).result = fetch t ∧ (c.load fetch t).notices = [.fetchingTree t] := by
  cases hfetch : fetch t with
  | ok tree => simp [load_of_ok h hfetch]
  | error e => simp [load_of_error h hfetch]

lemma load_of_fails (h : (c.load fetch t).result = .error e) : (c.load fetch t).cache = c := by
  obtain ⟨hkept, hfetch⟩ := load_eq_error_iff.mp h
  rw [load_of_error hkept hfetch]

lemma get?_load_iff : (c.load fetch t).cache.get? u = some tree ↔
    c.get? u = some tree ∨ u = t ∧ c.get? t = none ∧ fetch t = .ok tree := by
  rcases load_cases c fetch t with ⟨kept, hkept, hload⟩ | ⟨fetched, hkept, hfetch, hload⟩ | ⟨e, hkept, hfetch, hload⟩
  · simp [hkept, hload]
  · rw [hload, get?_append hkept, hfetch]
    split
    · next hu => simp [hu, hkept]
    · next hu => simp [hu]
  · simp [hfetch, hload]

lemma get?_load_of_get? (h : c.get? t = some tree) (fetch : Fetcher ε) (u : TreeName) :
    (c.load fetch u).cache.get? t = some tree :=
  get?_load_iff.mpr (.inl h)

lemma get?_load (h : (c.load fetch t).result = .ok tree) : (c.load fetch t).cache.get? t = some tree := by
  rcases load_eq_ok_iff.mp h with hkept | hfetched
  · exact get?_load_iff.mpr (.inl hkept)
  · exact get?_load_iff.mpr (.inr ⟨rfl, hfetched⟩)

lemma get?_load_eq_none_iff (h : (c.load fetch t).result = .ok tree) :
    (c.load fetch t).cache.get? u = none ↔ c.get? u = none ∧ u ≠ t := by
  have hkept := get?_load h
  constructor
  · intro hnone
    constructor
    · rw [Option.eq_none_iff_forall_ne_some] at hnone ⊢
      exact fun tree htree => hnone tree (get?_load_of_get? htree fetch t)
    · rintro rfl
      rw [hkept] at hnone
      cases hnone
  · rintro ⟨hnone, hne⟩
    rw [Option.eq_none_iff_forall_ne_some]
    intro tree htree
    rcases get?_load_iff.mp htree with htree | ⟨heq, _⟩
    · rw [hnone] at htree
      cases htree
    · exact hne heq

def names (c : TreeCache) : List TreeName :=
  c.trees.map (·.1)

lemma mem_names_iff : t ∈ c.names ↔ ∃ tree, c.get? t = some tree := by
  rw [← Option.isSome_iff_exists, get?, List.lookup_isSome_iff]
  simp [names]

lemma nodup_names_load (h : c.names.Nodup) : (c.load fetch t).cache.names.Nodup := by
  rcases load_cases c fetch t with ⟨kept, hkept, hload⟩ | ⟨fetched, hkept, hfetch, hload⟩ | ⟨e, hkept, hfetch, hload⟩
  · rwa [hload]
  · have hfresh : t ∉ c.names := by simp [mem_names_iff, hkept]
    rw [hload, names, List.map_append]
    exact h.append (List.nodup_singleton t) (List.disjoint_singleton.mpr hfresh)
  · rwa [hload]

/-! ## Calls -/

/-- A load comes with the fetcher as it answers at that time. -/
inductive Call (ε : Type)
  | load (fetch : Fetcher ε) (t : TreeName)
  | get (t : TreeName)
  | contains (t : TreeName)
  | size

inductive Reply (ε : Type)
  | loaded (result : Except ε Tree) (told : List Notice)
  | got (tree : Option Tree)
  | contained (kept : Bool)
  | counted (n : ℕ)

def Reply.told : Reply ε → List Notice
  | loaded _ told => told
  | _ => []

def perform (c : TreeCache) : Call ε → Reply ε × TreeCache
  | .load fetch t => (.loaded (c.load fetch t).result (c.load fetch t).notices, (c.load fetch t).cache)
  | .get t => (.got (c.get? t), c)
  | .contains t => (.contained (c.contains t), c)
  | .size => (.counted c.size, c)

def after (calls : List (Call ε)) : TreeCache :=
  calls.foldl (fun c call => (c.perform call).2) empty

/-- What some calls tell in turn, each of them to the cache as it is by then. -/
def log (c : TreeCache) : List (Call ε) → List Notice
  | [] => []
  | call :: calls => (c.perform call).1.told ++ log (c.perform call).2 calls

def Loaded (calls : List (Call ε)) (t : TreeName) (tree : Tree) : Prop :=
  ∃ before fetch later, calls = before ++ .load fetch t :: later ∧
    ∃ told, ((after before).perform (.load fetch t)).1 = .loaded (.ok tree) told

variable {calls : List (Call ε)} {call : Call ε} {told : List Notice}

lemma perform_load_eq_iff {result : Except ε Tree} : (c.perform (.load fetch t)).1 = .loaded result told ↔
    (c.load fetch t).result = result ∧ (c.load fetch t).notices = told := by
  rw [perform, Reply.loaded.injEq]

lemma get?_perform (h : c.get? t = some tree) (call : Call ε) : (c.perform call).2.get? t = some tree := by
  cases call with
  | load fetch u => exact get?_load_of_get? h fetch u
  | get u => exact h
  | contains u => exact h
  | size => exact h

lemma notMem_told_of_get? (h : c.get? t = some tree) (call : Call ε) :
    .fetchingTree t ∉ (c.perform call).1.told := by
  cases call with
  | load fetch u =>
    change .fetchingTree t ∉ (c.load fetch u).notices
    cases hkept : c.get? u with
    | some _ => simp [load_of_get? hkept]
    | none =>
      rw [(load_of_not_kept hkept).2, List.mem_singleton, Notice.fetchingTree.injEq]
      rintro rfl
      rw [h] at hkept
      cases hkept
  | get u => exact List.not_mem_nil
  | contains u => exact List.not_mem_nil
  | size => exact List.not_mem_nil

lemma notMem_log_of_get? (h : c.get? t = some tree) (calls : List (Call ε)) : .fetchingTree t ∉ log c calls := by
  induction calls generalizing c with
  | nil => exact List.not_mem_nil
  | cons call calls ih =>
    rw [log, List.mem_append, not_or]
    exact ⟨notMem_told_of_get? h call, ih (get?_perform h call)⟩

lemma after_append_singleton (calls : List (Call ε)) (call : Call ε) :
    after (calls ++ [call]) = ((after calls).perform call).2 := by
  rw [after, List.foldl_append]
  rfl

lemma loaded_append_singleton : Loaded (calls ++ [call]) t tree ↔
    Loaded calls t tree ∨ ∃ fetch, call = .load fetch t ∧ ((after calls).load fetch t).result = .ok tree := by
  constructor
  · rintro ⟨before, fetch, later, hcalls, told, hreply⟩
    rcases List.eq_nil_or_concat later with rfl | ⟨later, last, rfl⟩
    · obtain ⟨rfl, hcall⟩ := List.append_inj' hcalls rfl
      exact .inr ⟨fetch, List.singleton_inj.mp hcall, (perform_load_eq_iff.mp hreply).1⟩
    · rw [List.concat_eq_append, ← List.cons_append, ← List.append_assoc] at hcalls
      obtain ⟨rfl, _⟩ := List.append_inj' hcalls rfl
      exact .inl ⟨before, fetch, later, rfl, told, hreply⟩
  · rintro (⟨before, fetch, later, rfl, hreply⟩ | ⟨fetch, rfl, hload⟩)
    · exact ⟨before, fetch, later ++ [call], by simp, hreply⟩
    · exact ⟨calls, fetch, [], rfl, _, perform_load_eq_iff.mpr ⟨hload, rfl⟩⟩

lemma get?_after_iff : (after calls).get? t = some tree ↔ Loaded calls t tree := by
  induction calls using List.reverseRecOn with
  | nil => simp [after, empty, get?, Loaded]
  | append_singleton calls call ih =>
    rw [after_append_singleton, loaded_append_singleton, ← ih]
    cases call with
    | load fetch u =>
      change ((after calls).load fetch u).cache.get? t = some tree ↔ _
      rw [get?_load_iff]
      constructor
      · rintro (hkept | ⟨rfl, hnew⟩)
        · exact .inl hkept
        · exact .inr ⟨fetch, rfl, load_eq_ok_iff.mpr (.inr hnew)⟩
      · rintro (hkept | ⟨fetch', hcall, hload⟩)
        · exact .inl hkept
        · obtain ⟨rfl, rfl⟩ := Call.load.inj hcall
          exact get?_load_iff.mp (get?_load hload)
    | get u => simp [perform]
    | contains u => simp [perform]
    | size => simp [perform]

lemma get?_after_append (h : Loaded calls t tree) (later : List (Call ε)) :
    (after (calls ++ later)).get? t = some tree := by
  obtain ⟨before, fetch, rest, rfl, hreply⟩ := h
  exact get?_after_iff.mpr ⟨before, fetch, rest ++ later, by simp, hreply⟩

lemma get?_after_eq_none (h : ∀ tree, ¬ Loaded calls t tree) : (after calls).get? t = none :=
  Option.eq_none_iff_forall_ne_some.mpr fun tree hkept => h tree (get?_after_iff.mp hkept)

lemma nodup_names_after (calls : List (Call ε)) : (after calls).names.Nodup := by
  induction calls using List.reverseRecOn with
  | nil => exact .nil
  | append_singleton calls call ih =>
    rw [after_append_singleton]
    cases call with
    | load fetch u => exact nodup_names_load ih
    | get u => exact ih
    | contains u => exact ih
    | size => exact ih

lemma size_after (calls : List (Call ε)) : (after calls).size = {t | ∃ tree, Loaded calls t tree}.ncard := by
  have hset : {t | ∃ tree, Loaded calls t tree} = ((after calls).names.toFinset : Set TreeName) := by
    ext t
    simp [mem_names_iff, get?_after_iff]
  rw [hset, Set.ncard_coe_finset, List.toFinset_card_of_nodup (nodup_names_after calls), names, List.length_map, size]

lemma Loaded.exists_fetch (h : Loaded calls t tree) : ∃ fetch, .load fetch t ∈ calls ∧ fetch t = .ok tree := by
  induction calls using List.reverseRecOn with
  | nil => simp [Loaded] at h
  | append_singleton calls call ih =>
    rcases loaded_append_singleton.mp h with h | ⟨fetch, rfl, hload⟩
    · obtain ⟨fetch, hmem, hfetch⟩ := ih h
      exact ⟨fetch, List.mem_append_left _ hmem, hfetch⟩
    · rcases load_eq_ok_iff.mp hload with hkept | ⟨_, hfetch⟩
      · obtain ⟨fetch', hmem, hfetch⟩ := ih (get?_after_iff.mp hkept)
        exact ⟨fetch', List.mem_append_left _ hmem, hfetch⟩
      · exact ⟨fetch, List.mem_append_right _ (List.mem_singleton_self _), hfetch⟩

theorem coherent (calls : List (Call ε)) :
    (∀ t, (after calls).contains t = true ↔ ∃ tree, Loaded calls t tree) ∧
      (∀ t tree, Loaded calls t tree → ∀ later,
        .fetchingTree t ∉ log (after calls) later ∧ let c := after (calls ++ later)
          c.perform (.get t : Call ε) = (.got (some tree), c) ∧
            ∀ fetch : Fetcher ε, c.perform (.load fetch t) = (.loaded (.ok tree) [], c)) ∧
      (∀ t, (∀ tree, ¬ Loaded calls t tree) → ∀ fetch : Fetcher ε,
        ((after calls).perform (.load fetch t)).1 = .loaded (fetch t) [.fetchingTree t]) ∧
      (∀ (fetch : Fetcher ε) t e told, ((after calls).perform (.load fetch t)).1 = .loaded (.error e) told →
        fetch t = .error e ∧ told = [.fetchingTree t] ∧ ((after calls).perform (.load fetch t)).2 = after calls) ∧
      (after calls).perform (.size : Call ε) = (.counted {t | ∃ tree, Loaded calls t tree}.ncard, after calls) ∧
      ((∀ fetch t, .load fetch t ∈ calls → ∃ (fs : Files) (root : String),
          ∀ tree, fetch t = .ok tree → fs.fetchTree root t = .ok tree) →
        ∀ t tree, (after calls).get? t = some tree → tree.fault? = none) := by
  refine ⟨fun t => ?_, fun t tree h later => ⟨?_, ?_, fun fetch => ?_⟩, fun t h fetch => ?_, fun fetch t e told h => ?_, ?_,
    fun hfiles t tree h => ?_⟩
  · rw [contains, Option.isSome_iff_exists]
    exact exists_congr fun _ => get?_after_iff
  · exact notMem_log_of_get? (get?_after_iff.mpr h) later
  · rw [perform, get?_after_append h later]
  · rw [perform, load_of_get? (get?_after_append h later)]
  · exact perform_load_eq_iff.mpr (load_of_not_kept (get?_after_eq_none h))
  · obtain ⟨hresult, htold⟩ := perform_load_eq_iff.mp h
    obtain ⟨hkept, hfetch⟩ := load_eq_error_iff.mp hresult
    exact ⟨hfetch, htold.symm.trans (load_of_not_kept hkept).2, load_of_fails hresult⟩
  · rw [perform, size_after]
  · obtain ⟨fetch, hmem, hfetch⟩ := (get?_after_iff.mp h).exists_fetch
    obtain ⟨fs, root, hdirectory⟩ := hfiles fetch t hmem
    exact Files.fault?_of_fetchTree (hdirectory tree hfetch)

example :
    let layout (name : String) : Fetcher LoadError := fun _ => .ok ⟨name, []⟩
    let calls := [.load (fun t => .error (.notFetched t "offline")) .lich, .load (layout "Old") .lich]
    (after calls).perform (.load (layout "New") .lich) = (.loaded (.ok ⟨"Old", []⟩) [], after calls) ∧
      log empty calls = [.fetchingTree .lich, .fetchingTree .lich] :=
  ⟨rfl, rfl⟩

end TreeCache
end CharacterBuild
