import Mathlib
import CharacterBuild.Damage.Offense
import CharacterBuild.GameData.Bundled
import CharacterBuild.Proofs.Pool.Passive

/-! Active skills are evaluated apart from each other: the summary of one depends on its own use and on what the whole build
grants, and the defenses on the latter alone. -/

namespace CharacterBuild.Damage.Offense

section Put

variable {α : Type} {es : List (String × Summary α)} {name other : String} {a : Summary α}

lemma lookup_put_self : (put name a es).lookup name = some a := by
  induction es with
  | nil => exact List.lookup_cons_self
  | cons e es ih =>
    rw [put]
    split
    · exact List.lookup_cons_self
    · split
      · exact List.lookup_cons_self
      · next hne =>
        rw [List.lookup_cons, beq_eq_false_iff_ne.mpr hne]
        exact ih

lemma lookup_put_of_ne (h : other ≠ name) : (put name a es).lookup other = es.lookup other := by
  have hhead : ∀ es, List.lookup other ((name, a) :: es) = es.lookup other := by
    intro es
    rw [List.lookup_cons, beq_eq_false_iff_ne.mpr h]
  induction es with
  | nil => exact hhead []
  | cons e es ih =>
    rw [put]
    split
    · exact hhead _
    · split
      · next heq => rw [hhead, List.lookup_cons, beq_eq_false_iff_ne.mpr (heq ▸ h)]
      · rw [List.lookup_cons, List.lookup_cons, ih]

lemma mem_keys_put : other ∈ (put name a es).map (·.1) ↔ other = name ∨ other ∈ es.map (·.1) := by
  induction es with
  | nil => simp [put]
  | cons e es ih =>
    rw [put]
    split
    · simp
    · split
      · next heq => simp [heq]
      · rw [List.map_cons, List.map_cons, List.mem_cons, List.mem_cons, ih]
        exact or_left_comm

lemma mem_of_mem_put {e : String × Summary α} (h : e ∈ put name a es) : e = (name, a) ∨ e ∈ es := by
  induction es with
  | nil => exact .inl (List.mem_singleton.mp h)
  | cons e' es ih =>
    rw [put] at h
    split at h
    · exact List.mem_cons.mp h
    · split at h
      · exact (List.mem_cons.mp h).imp_right (.tail _)
      · rcases List.mem_cons.mp h with rfl | h
        · exact .inr List.mem_cons_self
        · exact (ih h).imp_right (.tail _)

lemma pairwise_put (h : (es.map (·.1)).Pairwise (· < ·)) : ((put name a es).map (·.1)).Pairwise (· < ·) := by
  induction es with
  | nil => exact List.pairwise_singleton _ _
  | cons e es ih =>
    obtain ⟨he, hes⟩ := List.pairwise_cons.mp h
    rw [put]
    split
    · next hlt =>
      refine List.pairwise_cons.mpr ⟨fun n hn => ?_, h⟩
      rcases List.mem_cons.mp hn with rfl | hn
      · exact hlt
      · exact lt_trans hlt (he n hn)
    · next hlt =>
      split
      · next heq => exact List.pairwise_cons.mpr ⟨fun n hn => heq ▸ he n hn, hes⟩
      · next hne =>
        refine List.pairwise_cons.mpr ⟨fun n hn => ?_, ih hes⟩
        rcases mem_keys_put.mp hn with rfl | hn
        · exact lt_of_le_of_ne (not_lt.mp hlt) (Ne.symm hne)
        · exact he n hn

end Put

variable {α : Type} [Number α] {d : GameData α} {c : Configuration} {pool : List (Modifier α)} {w : Option (Weapon α)}
  {es es' : List (String × Summary α)} {u : SkillUse} {us : List SkillUse} {name : String} {l : Loadout α}

def ownSummary? (d : GameData α) (c : Configuration) (pool : List (Modifier α)) (w : Option (Weapon α)) (u : SkillUse) :
    Option (Summary α) :=
  (d.skill? u.name).bind fun s => Summary.of? s ⟨pool ++ d.templates.supportModifiers u.supports, c⟩ w d.constants

lemma addSkill?_cases (h : addSkill? d c pool w es u = some es') :
    (d.skill? u.name = none ∧ es' = es) ∨
      ∃ a, (d.skill? u.name).isSome ∧ ownSummary? d c pool w u = some a ∧ es' = put u.name a es := by
  unfold addSkill? summary? at h
  cases hs : d.skill? u.name with
  | none =>
    rw [hs] at h
    exact .inl ⟨rfl, (Option.some.inj h).symm⟩
  | some s =>
    rw [hs] at h
    obtain ⟨_, hsummary, h⟩ := Option.bind_eq_some_iff.mp h
    obtain ⟨a, ha, rfl⟩ := Option.map_eq_some_iff.mp hsummary
    refine .inr ⟨a, rfl, ?_, (Option.some.inj h).symm⟩
    rw [ownSummary?, hs]
    exact ha

lemma foldlM_cons (h : (u :: us).foldlM (addSkill? d c pool w) es = some es') :
    ∃ es₁, addSkill? d c pool w es u = some es₁ ∧ us.foldlM (addSkill? d c pool w) es₁ = some es' := by
  rw [List.foldlM_cons] at h
  exact Option.bind_eq_some_iff.mp h

lemma foldlM_invariant {P : List (String × Summary α) → Prop} (h : us.foldlM (addSkill? d c pool w) es = some es')
    (hput : ∀ u ∈ us, ∀ a, ownSummary? d c pool w u = some a → ∀ es, P es → P (put u.name a es)) (hes : P es) : P es' := by
  induction us generalizing es with
  | nil => rwa [← Option.some.inj h]
  | cons u us ih =>
    obtain ⟨es₁, hadd, hrest⟩ := foldlM_cons h
    obtain ⟨hu, hus⟩ := List.forall_mem_cons.mp hput
    refine ih hrest hus ?_
    obtain ⟨_, rfl⟩ | ⟨a, _, ha, rfl⟩ := addSkill?_cases hadd
    · exact hes
    · exact hu a ha es hes

lemma lookup_foldlM_of_not_mem (h : us.foldlM (addSkill? d c pool w) es = some es') (hname : name ∉ us.map (·.name)) :
    es'.lookup name = es.lookup name := by
  refine foldlM_invariant (P := fun es₁ => es₁.lookup name = es.lookup name) h (fun u hu a _ es₁ hes => ?_) rfl
  have hne : name ≠ u.name := fun heq => hname (List.mem_map.mpr ⟨u, hu, heq.symm⟩)
  rw [lookup_put_of_ne hne, hes]

lemma lookup_foldlM_of_mem (h : us.foldlM (addSkill? d c pool w) es = some es') (hnames : (us.map (·.name)).Nodup)
    (hu : u ∈ us) (hes : es.lookup u.name = none) : es'.lookup u.name = ownSummary? d c pool w u := by
  induction us generalizing es with
  | nil => cases hu
  | cons v us ih =>
    obtain ⟨es₁, hadd, hrest⟩ := foldlM_cons h
    obtain ⟨hv, hus⟩ := List.nodup_cons.mp hnames
    rcases List.mem_cons.mp hu with rfl | hu
    · -- the uses that follow have other names and leave this summary alone
      rw [lookup_foldlM_of_not_mem hrest hv]
      obtain ⟨hs, rfl⟩ | ⟨a, _, ha, rfl⟩ := addSkill?_cases hadd
      · rw [hes, ownSummary?, hs]
        rfl
      · rw [lookup_put_self, ha]
    · refine ih hrest hus hu ?_
      have hne : u.name ≠ v.name := fun heq => hv (List.mem_map.mpr ⟨u, hu, heq⟩)
      obtain ⟨_, rfl⟩ | ⟨a, _, _, rfl⟩ := addSkill?_cases hadd
      · exact hes
      · rw [lookup_put_of_ne hne, hes]

lemma mem_keys_foldlM (h : us.foldlM (addSkill? d c pool w) es = some es') :
    name ∈ es'.map (·.1) ↔ name ∈ es.map (·.1) ∨ ∃ u ∈ us, u.name = name ∧ (d.skill? name).isSome := by
  induction us generalizing es with
  | nil => simp [Option.some.inj h]
  | cons u us ih =>
    obtain ⟨es₁, hadd, hrest⟩ := foldlM_cons h
    rw [ih hrest, List.exists_mem_cons_iff, ← or_assoc]
    refine or_congr_left ?_
    obtain ⟨hs, rfl⟩ | ⟨a, hs, _, rfl⟩ := addSkill?_cases hadd
    · refine (or_iff_left ?_).symm
      rintro ⟨rfl, hknown⟩
      rw [hs] at hknown
      cases hknown
    · rw [mem_keys_put, or_comm, eq_comm]
      refine or_congr_right (and_iff_left_of_imp ?_).symm
      rintro rfl
      exact hs

lemma pairwise_foldlM (h : us.foldlM (addSkill? d c pool w) es = some es') (hes : (es.map (·.1)).Pairwise (· < ·)) :
    (es'.map (·.1)).Pairwise (· < ·) :=
  foldlM_invariant (P := fun es => (es.map (·.1)).Pairwise (· < ·)) h (fun _ _ _ _ _ => pairwise_put) hes

lemma exists_use_of_mem_foldlM (h : us.foldlM (addSkill? d c pool w) [] = some es') :
    ∀ e ∈ es', ∃ u ∈ us, ownSummary? d c pool w u = some e.2 := by
  refine foldlM_invariant (P := fun es => ∀ e ∈ es, ∃ u ∈ us, ownSummary? d c pool w u = some e.2) h
    (fun u hu a ha es hes e he => ?_) nofun
  rcases mem_of_mem_put he with rfl | he
  · exact ⟨u, hu, ha⟩
  · exact hes e he

lemma of?_eq_some {o : Offense α} (h : Offense.of? l c d = some o) :
    l.enabledActive.foldlM (addSkill? d c (l.pool c d.templates) (weapon? l)) [] = some o.skills ∧
      o.defenses = .ofPool ⟨l.pool c d.templates, c⟩ d.constants.baseMaxResistance := by
  obtain ⟨skills, hskills, h⟩ := Option.bind_eq_some_iff.mp h
  obtain rfl := Option.some.inj h
  exact ⟨hskills, rfl⟩

lemma lookup_skills {o : Offense α} (hnames : (l.active.map (·.name)).Nodup) (h : Offense.of? l c d = some o)
    (hu : u ∈ l.active) :
    o.skills.lookup u.name = if u.enabled then ownSummary? d c (l.pool c d.templates) (weapon? l) u else none := by
  obtain ⟨hskills, _⟩ := of?_eq_some h
  split
  · next henabled =>
    exact lookup_foldlM_of_mem hskills (hnames.sublist (List.filter_sublist.map _)) (List.mem_filter.mpr ⟨hu, henabled⟩) rfl
  · next hdisabled =>
    rw [lookup_foldlM_of_not_mem hskills]
    · rfl
    · intro hmem
      obtain ⟨v, hv, hname⟩ := List.mem_map.mp hmem
      obtain ⟨hv, henabled⟩ := List.mem_filter.mp hv
      obtain rfl := List.inj_on_of_nodup_map hnames hv hu hname
      exact hdisabled henabled

lemma mem_keys_skills {o : Offense α} (h : Offense.of? l c d = some o) :
    name ∈ o.skills.map (·.1) ↔ ∃ u ∈ l.active, u.enabled ∧ u.name = name ∧ (d.skill? name).isSome := by
  rw [mem_keys_foldlM (of?_eq_some h).1]
  simp [Loadout.enabledActive, and_assoc]

lemma exists_lookup_skills {o : Offense α} {s : Skill α} (hnames : (l.active.map (·.name)).Nodup)
    (h : Offense.of? l c d = some o) (hu : u ∈ l.active) (henabled : u.enabled) (hs : d.skill? u.name = some s) :
    ∃ a, o.skills.lookup u.name = some a ∧
      Summary.of? s ⟨l.pool c d.templates ++ d.templates.supportModifiers u.supports, c⟩ (weapon? l) d.constants =
        some a := by
  have hkey : u.name ∈ o.skills.map (·.1) := (mem_keys_skills h).mpr ⟨u, hu, henabled, rfl, hs ▸ rfl⟩
  obtain ⟨e, he, hname⟩ := List.mem_map.mp hkey
  obtain ⟨a, ha⟩ := Option.isSome_iff_exists.mp (List.lookup_isSome_iff.mpr ⟨e, he, beq_iff_eq.mpr hname.symm⟩)
  refine ⟨a, ha, ?_⟩
  rwa [lookup_skills hnames h hu, if_pos henabled, ownSummary?, hs] at ha

lemma forall_skills_iff {o : Offense α} {P : Summary α → Prop} (hnames : (l.active.map (·.name)).Nodup)
    (h : Offense.of? l c d = some o) : (∀ e ∈ o.skills, P e.2) ↔
      ∀ u ∈ l.enabledActive, ∀ s ∈ d.skill? u.name, ∃ a, P a ∧
        Summary.of? s ⟨Loadout.skillPool (l.pool c d.templates) d.templates u, c⟩ (weapon? l) d.constants = some a := by
  constructor
  · intro hall u hu s hs
    obtain ⟨hu, henabled⟩ := List.mem_filter.mp hu
    obtain ⟨a, hlookup, ha⟩ := exists_lookup_skills hnames h hu henabled hs
    obtain ⟨before, after, hskills, _⟩ := List.lookup_eq_some_iff.mp hlookup
    exact ⟨a, hall (u.name, a) (hskills ▸ List.mem_append_right before List.mem_cons_self), ha⟩
  · intro hall e he
    obtain ⟨u, hu, ha⟩ := exists_use_of_mem_foldlM (of?_eq_some h).1 e he
    obtain ⟨s, hs, he⟩ := Option.bind_eq_some_iff.mp ha
    obtain ⟨a, hP, ha⟩ := hall u hu s hs
    rwa [← Option.some.inj (ha.symm.trans he)]

/-- A second run differs in nothing but its active skills: they may come and go, be switched off, change their places or
their supports. -/
theorem active_skills_apart {o : Offense α} (hnames : (l.active.map (·.name)).Nodup) (h : Offense.of? l c d = some o) :
    (o.skills.map (·.1)).Pairwise (· < ·) ∧
      (∀ name, name ∈ o.skills.map (·.1) ↔ ∃ u ∈ l.active, u.enabled ∧ u.name = name ∧ (d.skill? name).isSome) ∧
      (∀ u ∈ l.active, u.enabled → ∀ s, d.skill? u.name = some s →
        ∃ a granted, o.skills.lookup u.name = some a ∧ d.templates.Grant u.supports granted ∧
          Summary.of? s ⟨l.pool c d.templates ++ granted, c⟩ (weapon? l) d.constants = some a) ∧
      ∀ (us : List SkillUse) (o' : Offense α), Offense.of? { l with active := us } c d = some o' →
        o'.defenses = o.defenses ∧
          ((us.map (·.name)).Nodup → ∀ u ∈ l.active, u ∈ us → o'.skills.lookup u.name = o.skills.lookup u.name) := by
  obtain ⟨hskills, hdefenses⟩ := of?_eq_some h
  refine ⟨pairwise_foldlM hskills .nil, fun name => mem_keys_skills h, fun u hu henabled s => ?_, fun us o' h' => ⟨?_, ?_⟩⟩
  · intro hs
    obtain ⟨a, ha, hsummary⟩ := exists_lookup_skills hnames h hu henabled hs
    exact ⟨a, _, ha, d.templates.grant_supportModifiers u.supports, hsummary⟩
  · rw [hdefenses, (of?_eq_some h').2]
    rfl
  · intro hnames' u hu hu'
    rw [lookup_skills hnames h hu, lookup_skills hnames' h' hu']
    rfl

def spellPair : Loadout ℚ where
  gear := []
  talents := []
  active := [⟨"Chain Lightning", 1, true, [⟨"Quick Cast", 3⟩, ⟨"Unknown", 1⟩]⟩, ⟨"Mind Control", 1, true, []⟩]
  passive := [⟨"Precise: Cruelty", 2, true, []⟩]
  prisms := []
  rings := []

def spellsAmongAttacks : List SkillUse :=
  [⟨"Mind Control", 1, false, [⟨"Persistence", 1⟩]⟩, ⟨"Frost Spike", 20, true, [⟨"Added Cold Damage", 5⟩]⟩,
    ⟨"No Such Skill", 1, true, []⟩, ⟨"Chain Lightning", 1, true, [⟨"Quick Cast", 3⟩, ⟨"Unknown", 1⟩]⟩]

theorem chain_lightning_among_attacks : ∃ (o o' : Offense ℚ) (a : Summary ℚ),
    (spellPair.active.map (·.name)).Nodup ∧ Offense.of? spellPair .empty .bundled = some o ∧
      Offense.of? { spellPair with active := spellsAmongAttacks } .empty .bundled = some o' ∧
      o'.defenses = o.defenses ∧ o.skills.lookup "Chain Lightning" = some a ∧
      o'.skills.lookup "Chain Lightning" = some a ∧
      a.spell.map (·.hitsPerSecond) = some (5 / 4 * (1 + 1 / 5 * (1 + 1 / 10))) := by
  have hnames : (spellPair.active.map (·.name)).Nodup := by decide +kernel
  have hnames' : (spellsAmongAttacks.map (·.name)).Nodup := by decide +kernel
  obtain ⟨o, ho⟩ : ∃ o, Offense.of? spellPair .empty .bundled = some o :=
    Option.isSome_iff_exists.mp (by decide +kernel)
  obtain ⟨o', ho'⟩ : ∃ o, Offense.of? { spellPair with active := spellsAmongAttacks } .empty .bundled = some o :=
    Option.isSome_iff_exists.mp (by decide +kernel)
  obtain ⟨s, hs⟩ : ∃ s, (GameData.bundled : GameData ℚ).skill? "Chain Lightning" = some s :=
    Option.isSome_iff_exists.mp (by decide +kernel)
  have hspeed : ∀ o ∈ Offense.of? spellPair .empty .bundled, ∀ a ∈ o.skills.lookup "Chain Lightning",
      a.spell.map (·.hitsPerSecond) = some (5 / 4 * (1 + 1 / 5 * (1 + 1 / 10))) := by decide +kernel
  obtain ⟨_, _, hsummary, hrest⟩ := active_skills_apart hnames ho
  obtain ⟨hdefenses, hskills⟩ := hrest spellsAmongAttacks o' ho'
  obtain ⟨a, _, ha, _⟩ :=
    hsummary ⟨"Chain Lightning", 1, true, [⟨"Quick Cast", 3⟩, ⟨"Unknown", 1⟩]⟩ List.mem_cons_self rfl s hs
  refine ⟨o, o', a, hnames, ho, ho', hdefenses, ha, ?_, hspeed o ho a ha⟩
  exact (hskills hnames' _ List.mem_cons_self (by decide +kernel)).trans ha

end CharacterBuild.Damage.Offense
