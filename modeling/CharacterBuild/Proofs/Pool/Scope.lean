import CharacterBuild.Proofs.Affix.WellFormed
import CharacterBuild.Proofs.GameData.Accepted
import CharacterBuild.Proofs.Pool.Passive

/-! No modifier in play has a scope that nothing reads. Texts have no words for one, templates that say one are turned
down, and scaling by points, levels or an aura leaves the scope as it is. -/

namespace CharacterBuild

variable {α : Type} [Number α] {m : Modifier α} {base : List (Modifier α)} {c : Configuration} {s : SkillUse}
  {t : Template α} {ts : Templates α} {l : Loadout α} {d : GameData α}

/-! ## Texts and scaling -/

namespace Affix

lemma scopeAccepted_of_mem {text : String} (h : m ∈ modifiers text) : m.scopeAccepted = true := by
  obtain ⟨line, _, hline⟩ := List.mem_filterMap.mp h
  exact (sentence_of_parse hline).scopeAccepted

end Affix

lemma Modifier.scopeAccepted_scaled (m : Modifier α) (factor : α) : (m.scaled factor).scopeAccepted = m.scopeAccepted := by
  rw [scopeAccepted, stat_scaled]
  rfl

/-! ## Templates -/

namespace Templates

inductive Accepted : Templates α → Prop
  | read {text : String} {ts : Templates α} (h : Templates.read text = .ok ts) : Accepted ts
  | load {fs : Files} {path : String} {ts : Templates α}
      (h : (fs.read path).mapError DataError.io >>= Templates.read = .ok ts) : Accepted ts
  | bundled : Accepted GameData.bundledTemplates

lemma fault?_of_read {text : String} (h : Templates.read text = .ok ts) : ts.fault? = none := by
  have hfault := fault?_of_readData h
  exact Option.map_eq_none_iff.mp hfault

lemma Accepted.fault?_eq_none (h : ts.Accepted) : ts.fault? = none := by
  cases h with
  | read h => exact fault?_of_read h
  | load h =>
    obtain ⟨text, _, h⟩ := exists_of_bind h
    exact fault?_of_read h
  | bundled => rfl

lemma Accepted.scopeAccepted (h : ts.Accepted) : ∀ t ∈ ts.supports ++ ts.passives, ∀ m ∈ t.modifiers,
    m.scopeAccepted = true := by
  have hfault := h.fault?_eq_none
  simp only [fault?, Option.orElse_eq_orElse, Option.orElse_eq_or, Option.or_eq_none_iff] at hfault
  obtain ⟨hsupports, hpassives⟩ := hfault
  intro t ht
  rw [← Template.fault?_eq_none_iff]
  rcases List.mem_append.mp ht with ht | ht
  · exact Template.fault?_of_firstFault? hsupports t ht
  · exact Template.fault?_of_firstFault? hpassives t ht

end Templates

/-! ## Pools -/

namespace Modifier.Lasting

variable {P : Modifier α → Prop}

lemma of_mem_baseModifiers (hP : Lasting P) (hm : m ∈ l.baseModifiers c) : P m :=
  hP.of_mem_sources (List.mem_filter.mp hm).1

lemma of_mem_atLevel (hP : Lasting P) (ht : ∀ m ∈ t.modifiers, P m) {level : UInt32} (hm : m ∈ t.atLevel level) : P m := by
  obtain ⟨m, hmem, rfl⟩ := List.mem_map.mp hm
  exact hP.scaled _ (ht m hmem)

lemma of_mem_supportModifiers (hP : Lasting P) (hts : ∀ t ∈ ts.supports, ∀ m ∈ t.modifiers, P m) {ss : List SupportSkill}
    (hm : m ∈ ts.supportModifiers ss) : P m := by
  obtain ⟨s, _, hm⟩ := List.mem_flatMap.mp hm
  cases ht : ts.support? s.name with
  | none =>
    rw [ht] at hm
    cases hm
  | some t =>
    rw [ht] at hm
    exact hP.of_mem_atLevel (hts t (List.mem_of_find?_eq_some ht)) hm

lemma of_mem_block (hP : Lasting P) (ht : ∀ m ∈ t.modifiers, P m) (hm : m ∈ Aura.block base c ts s t) : P m := by
  obtain ⟨granted, hgranted, rfl⟩ := List.mem_map.mp hm
  have hlevel := hP.scaled (Template.levelFactor t.levelScaling s.level) (ht granted (List.mem_filter.mp hgranted).1)
  dsimp only
  split
  · exact hlevel
  · exact hP.scaled _ hlevel

lemma of_mem_pool (hP : Lasting P) (hts : ∀ t ∈ ts.passives, ∀ m ∈ t.modifiers, P m) (hm : m ∈ l.pool c ts) : P m := by
  rw [Aura.pool_eq, List.mem_append, List.mem_flatten] at hm
  rcases hm with hm | ⟨block, hblock, hm⟩
  · exact hP.of_mem_baseModifiers hm
  · obtain ⟨s, _, hs⟩ := List.mem_filterMap.mp hblock
    obtain ⟨t, ht, rfl⟩ := Option.map_eq_some_iff.mp hs
    exact hP.of_mem_block (hts t (List.mem_of_find?_eq_some ht)) hm

end Modifier.Lasting

lemma Modifier.lasting_scopeAccepted : Lasting fun m : Modifier α => m.scopeAccepted = true where
  ofText := Affix.scopeAccepted_of_mem
  scaled factor h := (scopeAccepted_scaled _ factor).trans h

theorem Loadout.scopes_accepted (h : d.templates.Accepted) (l : Loadout α) (c : Configuration) :
    (∀ m ∈ l.pool c d.templates, m.scopeAccepted = true ∧ m.isBuildWide = true) ∧
      ∀ s, ∀ m ∈ skillPool (l.pool c d.templates) d.templates s, m.scopeAccepted = true := by
  have hpool : ∀ m ∈ l.pool c d.templates, m.scopeAccepted = true := fun m hm =>
    Modifier.lasting_scopeAccepted.of_mem_pool (fun t ht => h.scopeAccepted t (List.mem_append_right _ ht)) hm
  refine ⟨fun m hm => ⟨hpool m hm, Aura.isBuildWide_of_mem_pool hm⟩, fun s m hm => ?_⟩
  rcases List.mem_append.mp hm with hm | hm
  · exact hpool m hm
  · exact Modifier.lasting_scopeAccepted.of_mem_supportModifiers
      (fun t ht => h.scopeAccepted t (List.mem_append_left _ ht)) hm

def zealText : String :=
  "passives=[\x7bname=\"Zeal\",buff_mods=[\x7btype=\"DmgPct\",value=1,mod_type=\"attack\"\x7d]\x7d]\n" ++
    "supports=[\x7bname=\"Chill\",mods=[\x7btype=\"ResPct\",value=1,mod_type=\"cold\"\x7d]\x7d]"

def zeal : Templates ℚ where
  supports := [⟨"Chill", 0, [{ effect := .resistance, value := 1, scope := .cold }]⟩]
  passives := [⟨"Zeal", 0, [{ effect := .damage, value := 1, scope := .attack }]⟩]

lemma read_zealText : (Templates.read zealText : Except (DataError ℚ) (Templates ℚ)) = .ok zeal :=
  ok_of_toOption (by decide +kernel)

def zealous : Loadout ℚ where
  gear := [⟨.helmet, "Cap", none, ["+10% critical strike rating\n+5% spell critical strike rating"]⟩]
  talents := []
  active := []
  passive := [⟨"Zeal", 3, true, []⟩]
  prisms := []
  rings := []

theorem zealous_scopes_accepted :
    let pool := zealous.pool .empty zeal
    pool.map (fun m => (m.stat, m.scope)) = [(.critRating, .global), (.critRating, .spell), (.damage, .attack)] ∧
      (∀ m ∈ pool, m.scopeAccepted = true ∧ m.isBuildWide = true) ∧
      ∀ m ∈ Loadout.skillPool pool zeal ⟨"Bolt", 1, true, [⟨"Chill", 2⟩]⟩, m.scopeAccepted = true := by
  obtain ⟨hpool, hskill⟩ := Loadout.scopes_accepted (d := ⟨.default, [], zeal⟩) (.read read_zealText) zealous .empty
  exact ⟨by decide +kernel, hpool, hskill _⟩

end CharacterBuild
