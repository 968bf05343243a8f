import CharacterBuild.Proofs.Build.CleanUp
import CharacterBuild.Proofs.Talent.Cache

/-! A build that has been loaded is settled: its save, loaded again over the trees kept by then, gives the same build, and
nothing is fetched or told of. -/

namespace CharacterBuild

namespace TalentPage

variable {ε : Type} {c : TreeCache} {fetch : Fetcher ε} {t : TreeName} {tree : Tree} {p : SavedPage} {ps : List SavedPage}
  {pages : List TalentPage}

lemma exists_of_load_cons (h : (load fetch c (p :: ps)).result = .ok pages) : ∃ tree rest,
    (c.load fetch p.tree).result = .ok tree ∧ (load fetch (c.load fetch p.tree).cache ps).result = .ok rest ∧
      pages = ⟨p.tree, tree, CleanUp.allocation tree p.allocated⟩ :: rest ∧
      (load fetch c (p :: ps)).cache = (load fetch (c.load fetch p.tree).cache ps).cache := by
  rw [load] at h ⊢
  rcases hload : c.load fetch p.tree with ⟨_ | tree, c', told⟩
  · rw [hload] at h
    cases h
  · rw [hload] at h
    dsimp only at h ⊢
    cases hrest : (load fetch c' ps).result with
    | error e =>
      rw [hrest] at h
      cases h
    | ok rest =>
      rw [hrest] at h
      exact ⟨tree, rest, rfl, rfl, (Except.ok.inj h).symm, rfl⟩

lemma get?_load (h : c.get? t = some tree) (ps : List SavedPage) : (load fetch c ps).cache.get? t = some tree := by
  induction ps generalizing c with
  | nil => exact h
  | cons p ps ih =>
    have hnext := TreeCache.get?_load_of_get? h fetch p.tree
    rw [load]
    rcases hload : c.load fetch p.tree with ⟨_ | tree, c', told⟩ <;> rw [hload] at hnext
    · exact hnext
    · exact ih hnext

structure Settled (c : TreeCache) (p : TalentPage) : Prop where
  kept : c.get? p.name = some p.tree
  fits : p.allocation.FitsIn p.tree

lemma settled_of_load (h : (load fetch c ps).result = .ok pages) : ∀ p ∈ pages, p.Settled (load fetch c ps).cache := by
  induction ps generalizing c pages with
  | nil =>
    obtain rfl := Except.ok.inj h
    exact nofun
  | cons p ps ih =>
    obtain ⟨tree, rest, htree, hrest, rfl, hcache⟩ := exists_of_load_cons h
    rw [hcache]
    refine List.forall_mem_cons.mpr ⟨?_, ih hrest⟩
    exact ⟨get?_load (TreeCache.get?_load htree) ps, CleanUp.fitsIn_allocation tree p.allocated⟩

lemma load_settled (h : ∀ p ∈ pages, p.Settled c) :
    load fetch c (pages.map fun p => ⟨p.name, p.allocation⟩) = ⟨.ok pages, c, []⟩ := by
  induction pages with
  | nil => rfl
  | cons p pages ih =>
    obtain ⟨hp, hpages⟩ := List.forall_mem_cons.mp h
    rw [List.map_cons, load, TreeCache.load_of_get? hp.kept]
    dsimp only
    rw [ih hpages, CleanUp.allocation_eq_self hp.fits, CleanUp.allocationNotices_eq_nil hp.fits]
    rfl

end TalentPage

namespace Loadout

variable {α ε : Type} {fetch : Fetcher ε} {cache : TreeCache} {save : Save α} {l : Loadout α}

structure Settled (cache : TreeCache) (l : Loadout α) : Prop where
  gear : (l.gear.map (·.slot)).Nodup
  talents : ∀ p ∈ l.talents, p.Settled cache
  active : CleanUp.SkillsFit CleanUp.maxActive l.active
  passive : CleanUp.SkillsFit CleanUp.maxPassive l.passive
  prisms : ∀ p ∈ l.prisms, CleanUp.PrismFits p

lemma settled_of_ofSave (h : (ofSave fetch cache save).result = .ok l) : l.Settled (ofSave fetch cache save).cache := by
  obtain ⟨hpages, hl⟩ := pages_of_ofSave h
  rw [cache_ofSave]
  have htalents := TalentPage.settled_of_load hpages
  generalize l.talents = talents at hl htalents
  subst hl
  exact {
    gear := CleanUp.nodup_firsts
    talents := htalents
    active := CleanUp.skillsFit_skills _ _
    passive := CleanUp.skillsFit_skills _ _
    prisms := List.forall_mem_map.mpr fun p _ => CleanUp.prismFits_prism p }

lemma Settled.assemble_eq (h : l.Settled cache) (c : Configuration) : assemble (l.toSave c) l.talents = l := by
  have hprisms : l.prisms.map CleanUp.prism = l.prisms :=
    (List.map_congr_left fun p hp => CleanUp.prism_eq_self (h.prisms p hp)).trans (List.map_id _)
  rw [assemble, toSave]
  dsimp only
  rw [CleanUp.gear_eq_self h.gear, CleanUp.skills_eq_self h.active, CleanUp.skills_eq_self h.passive, hprisms]

lemma Settled.assemblyNotices_eq (h : l.Settled cache) (c : Configuration) : assemblyNotices (l.toSave c) = [] := by
  have hprisms : l.prisms.flatMap CleanUp.prismNotices = [] :=
    List.flatMap_eq_nil_iff.mpr fun p hp => CleanUp.prismNotices_eq_nil (h.prisms p hp)
  rw [assemblyNotices, toSave]
  dsimp only
  rw [CleanUp.gearNotices_eq_nil h.gear, CleanUp.skillNotices_eq_nil h.active, CleanUp.skillNotices_eq_nil h.passive,
    hprisms]
  rfl

lemma Settled.ofSave_toSave (h : l.Settled cache) (fetch : Fetcher ε) (c : Configuration) :
    ofSave fetch cache (l.toSave c) = ⟨.ok l, cache, []⟩ := by
  have hpages : TalentPage.load fetch cache (l.toSave c).talents = ⟨.ok l.talents, cache, []⟩ :=
    TalentPage.load_settled h.talents
  rw [ofSave, hpages]
  dsimp only
  rw [h.assemble_eq, h.assemblyNotices_eq]
  rfl

/-- No fetcher is asked again, so even one that always fails will do. -/
theorem reload (h : (ofSave fetch cache save).result = .ok l) :
    l.Settled (ofSave fetch cache save).cache ∧ ∀ (fetch' : Fetcher ε) (c : Configuration),
      ofSave fetch' (ofSave fetch cache save).cache (l.toSave c) = ⟨.ok l, (ofSave fetch cache save).cache, []⟩ := by
  have hsettled := settled_of_ofSave h
  exact ⟨hsettled, hsettled.ofSave_toSave⟩

def oneNode : Fetcher LoadError := fun t =>
  .ok ⟨Named.name t, [⟨.micro, "+4% damage", ⟨0, 0⟩, 3, "", none⟩]⟩

def crowded : Save ℚ where
  gear := [⟨.helmet, "Cap", none, ["+10% damage"]⟩, ⟨.helmet, "Second Cap", none, ["+99% damage"]⟩]
  talents := [⟨.warlock, .ofEntries [(⟨0, 0⟩, 9), (⟨4, 4⟩, 1)]⟩, ⟨.warlock, .ofEntries [(⟨0, 0⟩, 2)]⟩]
  active := [⟨"A", 1, true, [⟨"s1", 1⟩, ⟨"s2", 1⟩, ⟨"s2", 2⟩, ⟨"s3", 1⟩, ⟨"s4", 1⟩, ⟨"s5", 1⟩, ⟨"s6", 1⟩]⟩,
    ⟨"B", 1, false, []⟩, ⟨"A", 20, true, []⟩, ⟨"C", 1, true, []⟩, ⟨"D", 1, true, []⟩, ⟨"E", 1, true, []⟩]
  passive := [⟨"Precise: Cruelty", 20, true, []⟩, ⟨"Precise: Cruelty", 1, true, []⟩]
  prisms := [⟨"Prism", .rare, "Replaces a talent", [⟨.legendary, "+1% damage"⟩, ⟨.rare, "+2% damage"⟩,
    ⟨.rare, "+3% damage"⟩, ⟨.rare, "+4% damage"⟩]⟩]
  rings := [⟨"Ring", none, "+5% damage"⟩]
  configuration := .empty

theorem crowded_reload : ∃ l : Loadout ℚ,
    (ofSave oneNode .empty crowded).result = .ok l ∧ (ofSave oneNode .empty crowded).notices.length = 12 ∧
      ofSave (fun _ => .error (LoadError.parse "")) (ofSave oneNode .empty crowded).cache (l.toSave .empty) =
        ⟨.ok l, (ofSave oneNode .empty crowded).cache, []⟩ := by
  obtain ⟨l, hl⟩ : ∃ l, (ofSave oneNode .empty crowded).result = .ok l := ⟨_, rfl⟩
  exact ⟨l, hl, by decide +kernel, (reload hl).2 _ _⟩

end Loadout
end CharacterBuild
