import CharacterBuild.Proofs.Affix.Word
import CharacterBuild.Proofs.Files
import CharacterBuild.Talent.Library
import Mathlib

/-! Trees in a directory. A tree is fetched from the file that bears its name in small letters, and is listed once for each
file that bears its name in any letters. -/

namespace CharacterBuild

namespace TreeName

variable {file : String} {t : TreeName}

def Names (file : String) (t : TreeName) : Prop :=
  ∃ stem, file = stem ++ fileSuffix ∧ Text.sameLetters stem (Named.name t) = true

def lowerName (t : TreeName) : List Char :=
  (Named.name t).toList.map Char.toLower

lemma mem_all (t : TreeName) : t ∈ (Named.all : List TreeName) := by
  cases t <;> decide

lemma nodup_all : (Named.all : List TreeName).Nodup := by
  decide

lemma lowerName_injective : Function.Injective lowerName := by
  have hnodup : ((Named.all : List TreeName).map lowerName).Nodup := by decide +kernel
  intro s t h
  exact List.inj_on_of_nodup_map hnodup (mem_all s) (mem_all t) h

lemma sameLetters_iff {w : String} : Text.sameLetters w (Named.name t) = true ↔ w.toList.map Char.toLower = lowerName t := by
  rw [Text.sameLetters, beq_iff_eq]
  rfl

lemma ofWord?_eq_some_iff {w : String} : Named.ofWord? w = some t ↔ Text.sameLetters w (Named.name t) = true := by
  constructor
  · exact Named.sameLetters_of_ofWord?
  · intro h
    have hfound : (Named.ofWord? w : Option TreeName).isSome := List.find?_isSome.mpr ⟨t, mem_all t, h⟩
    obtain ⟨s, hs⟩ := Option.isSome_iff_exists.mp hfound
    have hsame := Named.sameLetters_of_ofWord? hs
    rw [sameLetters_iff] at h hsame
    rw [hs, lowerName_injective (hsame.symm.trans h)]

lemma ofFileName?_eq_some_iff : ofFileName? file = some t ↔ Names file t := by
  refine Option.bind_eq_some_iff.trans ?_
  constructor
  · rintro ⟨stem, hstem, hword⟩
    rw [List.isPrefixOf?_eq_some_iff_append_eq] at hstem
    refine ⟨.ofList stem.reverse, ?_, ofWord?_eq_some_iff.mp hword⟩
    rw [← String.toList_inj, ← List.reverse_inj, ← hstem]
    simp
  · rintro ⟨stem, rfl, hstem⟩
    refine ⟨stem.toList.reverse, ?_, ?_⟩
    · rw [List.isPrefixOf?_eq_some_iff_append_eq]
      simp
    · rw [List.reverse_reverse, String.ofList_toList]
      exact ofWord?_eq_some_iff.mpr hstem

instance (file : String) (t : TreeName) : Decidable (Names file t) :=
  decidable_of_iff _ ofFileName?_eq_some_iff

lemma names_fileName (t : TreeName) : Names t.fileName t := by
  refine ⟨.ofList (lowerName t), rfl, ?_⟩
  rw [sameLetters_iff, String.toList_ofList, lowerName, List.map_map]
  exact List.map_congr_left fun c _ => Char.toLower_toLower_eq_toLower c

lemma isName_fileName (t : TreeName) : FilePath.IsName t.fileName := by
  have hall : ∀ t ∈ (Named.all : List TreeName), FilePath.IsName t.fileName := by decide +kernel
  exact hall t (mem_all t)

end TreeName

lemma count_flatMap_replicate {τ : Type} [DecidableEq τ] {l : List τ} {t : τ} (hl : l.Nodup) (ht : t ∈ l) (k : τ → ℕ) :
    (l.flatMap fun u => List.replicate (k u) u).count t = k t := by
  induction l with
  | nil => cases ht
  | cons u l ih =>
    obtain ⟨hu, hl⟩ := List.nodup_cons.mp hl
    rw [List.flatMap_cons, List.count_append]
    rcases List.mem_cons.mp ht with rfl | ht
    · have hrest : t ∉ l.flatMap fun u => List.replicate (k u) u := by
        rw [List.mem_flatMap]
        rintro ⟨v, hv, hmem⟩
        exact hu (List.eq_of_mem_replicate hmem ▸ hv)
      rw [List.count_replicate_self, List.count_eq_zero_of_not_mem hrest, add_zero]
    · have hne : t ≠ u := fun heq => hu (heq ▸ ht)
      rw [ih hl ht, List.count_eq_zero_of_not_mem fun hmem => hne (List.eq_of_mem_replicate hmem), zero_add]

lemma flatMap_replicate_eq_filter_iff {τ : Type} [DecidableEq τ] {l : List τ} (hl : l.Nodup) (k : τ → ℕ) (p : τ → Bool) :
    (l.flatMap fun t => List.replicate (k t) t) = l.filter p ↔ ∀ t ∈ l, k t = if p t then 1 else 0 := by
  have hfilter : l.filter p = l.flatMap fun t => List.replicate (if p t then 1 else 0) t := by
    clear hl
    induction l with
    | nil => rfl
    | cons t l ih =>
      rw [List.filter_cons, List.flatMap_cons, ih]
      split <;> rfl
  constructor
  · intro h t ht
    rw [← count_flatMap_replicate hl ht k, h, hfilter, count_flatMap_replicate hl ht]
  · intro h
    rw [hfilter]
    exact List.flatMap_congr fun t ht => by rw [h t ht]

namespace Files

open TreeName

variable {fs : Files} {root : String} {d : FilePath} {t : TreeName} {tree : Tree}

lemma fetchTree_eq (fs : Files) (root : String) (t : TreeName) :
    fs.fetchTree root t = match fs.read (join root t.fileName) with
      | .error fault => .error (.io (join root t.fileName) fault)
      | .ok text => match Json.read? text >>= Tree.ofValue? with
        | none => .error (.parse (join root t.fileName))
        | some tree => match tree.fault? with
          | some fault => .error (.invalid t fault)
          | none => .ok tree := by
  unfold fetchTree
  dsimp only
  cases fs.read (join root t.fileName) with
  | error fault => rfl
  | ok text =>
    dsimp only [Except.mapError, bind, Except.bind]
    cases (Json.read? text).bind Tree.ofValue? <;> rfl

lemma fault?_of_fetchTree (h : fs.fetchTree root t = .ok tree) : tree.fault? = none := by
  rw [fetchTree_eq] at h
  split at h
  · cases h
  · split at h
    · cases h
    · split at h
      · cases h
      · next hfault =>
        obtain rfl := Except.ok.inj h
        exact hfault

def finds (fs : Files) (root : String) (t : TreeName) : Bool :=
  match fs.fetchTree root t with
  | .error (.io ..) => false
  | _ => true

lemma finds_iff_read : fs.finds root t = true ↔ ∃ text, fs.read (join root t.fileName) = .ok text := by
  have hfetch := fetchTree_eq fs root t
  unfold finds
  cases hread : fs.read (join root t.fileName) with
  | error fault =>
    rw [hread] at hfetch
    rw [hfetch]
    simp
  | ok text =>
    rw [hread] at hfetch
    refine iff_of_true ?_ ⟨text, rfl⟩
    rw [hfetch]
    dsimp only
    cases Json.read? text >>= Tree.ofValue? with
    | none => rfl
    | some tree =>
      dsimp only
      cases tree.fault? <;> rfl

/-- A directory that a path leads to. No two of its files have one name, and what bears the name of a tree is a file. -/
structure Folder (fs : Files) (root : String) (d : FilePath) : Prop where
  resolves : fs.resolve root = .ok d
  present : fs.hasDirectory d = true
  distinct : (fs.contents.map (·.1)).Nodup
  plain : ∀ file t, d ++ [file] ∈ fs.directories → ¬ Names file t
  room : ∀ t : TreeName, (join root t.fileName).utf8ByteSize ≤ maxPath

lemma Folder.finds_iff (h : fs.Folder root d) : fs.finds root t = true ↔ t.fileName ∈ fs.fileNames d := by
  rw [finds_iff_read, read_join_eq_ok_iff h.resolves h.present (isName_fileName t) (h.room t)]

def namesakes (fs : Files) (d : FilePath) (t : TreeName) : ℕ :=
  (fs.fileNames d).countP fun file => Names file t

lemma Folder.availableTrees_eq (h : fs.Folder root d) :
    fs.availableTrees root = .ok (Named.all.flatMap fun t => List.replicate (fs.namesakes d t) t) := by
  have hdirectories : (fs.directories.eraseDups.filterMap fun p => if p.dropLast = d then p.getLast? else none).filterMap
      ofFileName? = [] := by
    rw [List.filterMap_eq_nil_iff]
    intro file hfile
    obtain ⟨p, hp, hchild⟩ := List.mem_filterMap.mp hfile
    obtain rfl := child_eq_some_iff.mp hchild
    rw [Option.eq_none_iff_forall_ne_some]
    intro t ht
    exact h.plain file t (List.mem_eraseDups.mp hp) (ofFileName?_eq_some_iff.mp ht)
  rw [availableTrees, list_eq h.resolves h.present]
  change Except.ok _ = _
  rw [List.filterMap_append, hdirectories, List.append_nil]
  congr 2
  funext t
  rw [List.count_filterMap, namesakes]
  congr 2
  funext file
  exact Bool.eq_iff_iff.mpr (by simp [ofFileName?_eq_some_iff])

lemma Folder.one_namesake_iff (h : fs.Folder root d) :
    (∀ t, fs.namesakes d t = if fs.finds root t then 1 else 0) ↔
      ∀ file ∈ fs.fileNames d, ∀ t, Names file t → file = t.fileName := by
  constructor
  · intro hone file hfile t hnames
    have hpos : 0 < fs.namesakes d t := List.countP_pos_iff.mpr ⟨file, hfile, decide_eq_true hnames⟩
    have hfinds : fs.finds root t = true := by
      by_contra hnot
      rw [hone t, if_neg hnot] at hpos
      cases hpos
    have hlength := hone t
    rw [if_pos hfinds, namesakes, List.countP_eq_length_filter, List.length_eq_one_iff] at hlength
    obtain ⟨only, honly⟩ := hlength
    -- the file that the tree is fetched from is another namesake, unless it is this one
    have hmem : ∀ f ∈ fs.fileNames d, Names f t → f = only := by
      intro f hf hn
      exact List.mem_singleton.mp (honly ▸ List.mem_filter.mpr ⟨hf, decide_eq_true hn⟩)
    rw [hmem file hfile hnames, hmem t.fileName (h.finds_iff.mp hfinds) (names_fileName t)]
  · intro hcanonical t
    have hcount : fs.namesakes d t = (fs.fileNames d).count t.fileName := by
      refine List.countP_congr fun file hfile => ?_
      rw [decide_eq_true_iff, beq_iff_eq]
      exact ⟨hcanonical file hfile t, fun heq => heq ▸ names_fileName t⟩
    rw [hcount, (nodup_fileNames h.distinct d).count]
    exact if_congr h.finds_iff.symm rfl rfl

/-- Every tree that can be fetched is listed. No other is, and none twice, exactly if each file that bears the name of a tree
is the one that the tree is fetched from. -/
theorem listed_eq_found_iff (h : fs.Folder root d) : ∃ listed, fs.availableTrees root = .ok listed ∧
    (listed = Named.all.flatMap fun t => List.replicate (fs.namesakes d t) t) ∧
    (∀ t, fs.finds root t = true → t ∈ listed) ∧
    (listed = Named.all.filter (fs.finds root) ↔ ∀ file ∈ fs.fileNames d, ∀ t, Names file t → file = t.fileName) := by
  refine ⟨_, h.availableTrees_eq, rfl, fun t hfinds => ?_, ?_⟩
  · rw [List.mem_flatMap]
    refine ⟨t, mem_all t, List.mem_replicate.mpr ⟨Nat.ne_of_gt ?_, rfl⟩⟩
    exact List.countP_pos_iff.mpr ⟨t.fileName, h.finds_iff.mp hfinds, decide_eq_true (names_fileName t)⟩
  · rw [flatMap_replicate_eq_filter_iff nodup_all, ← h.one_namesake_iff]
    exact forall_congr' fun t => forall_prop_of_true (mem_all t)

def shelf : Files :=
  ((empty.write "trees/magister_tree.json" "\x7b\"name\": \"Magister\", \"nodes\": []\x7d").write
    "trees/Lich_tree.json" "\x7b\"name\": \"Lich\", \"nodes\": []\x7d").write "trees/readme" ""

lemma folder_shelf : shelf.Folder "trees" ["trees"] where
  resolves := by decide +kernel
  present := by decide +kernel
  distinct := by decide +kernel
  plain file t h := by
    have hdirectories : shelf.directories = [[], ["trees"], [], ["trees"], [], ["trees"]] := by decide +kernel
    rw [hdirectories] at h
    simp at h
  room t := by
    have hall : ∀ t ∈ (Named.all : List TreeName), (join "trees" t.fileName).utf8ByteSize ≤ maxPath := by decide +kernel
    exact hall t (mem_all t)

theorem shelf_listed : shelf.Folder "trees" ["trees"] ∧ ∃ listed, shelf.availableTrees "trees" = .ok listed ∧
    (∀ t, shelf.finds "trees" t = true → t ∈ listed) ∧ listed ≠ Named.all.filter (shelf.finds "trees") := by
  obtain ⟨listed, hlisted, _, hfound, hexact⟩ := listed_eq_found_iff folder_shelf
  refine ⟨folder_shelf, listed, hlisted, hfound, fun heq => ?_⟩
  have hlich := hexact.mp heq "Lich_tree.json" (by decide +kernel) .lich (by decide +kernel)
  exact absurd hlich (by decide +kernel)

theorem capital_listed_and_missing : shelf.Folder "trees" ["trees"] ∧
    shelf.availableTrees "trees" = .ok [.magister, .lich] ∧
    shelf.fetchTree "trees" .lich = .error (.io "trees/lich_tree.json" .notFound) ∧
    shelf.availableTrees "trees" ≠ .ok (Named.all.filter (shelf.finds "trees")) := by
  have hlisted : shelf.availableTrees "trees" = .ok [.magister, .lich] := by rfl
  have hfetch : shelf.fetchTree "trees" .lich = .error (.io "trees/lich_tree.json" .notFound) := by rfl
  have hmissing : shelf.finds "trees" .lich = false := by
    unfold finds
    rw [hfetch]
  refine ⟨folder_shelf, hlisted, hfetch, fun hclaim => ?_⟩
  have hmem : TreeName.lich ∈ ([.magister, .lich] : List TreeName) := by decide
  have heq := Except.ok.inj (hlisted.symm.trans hclaim)
  have hfinds := (List.mem_filter.mp (heq ▸ hmem)).2
  exact Bool.false_ne_true (hmissing.symm.trans hfinds)

end Files
end CharacterBuild
