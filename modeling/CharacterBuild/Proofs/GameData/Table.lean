import CharacterBuild.Proofs.GameData.Accepted

namespace CharacterBuild

section Reading

variable {α β : Type} {read? : Value → Option β} {fault? : β → Option (DataFault α)} {text : String} {b r : β}
  {e : DataError α}

lemma readData_eq_ok_iff (h : Toml.read? text >>= read? = some b) :
    readData read? fault? text = .ok r ↔ r = b ∧ fault? b = none := by
  rw [readData, h]
  dsimp only
  cases fault? b with
  | none => simp [eq_comm]
  | some f => simp

lemma readData_eq_error_iff (h : Toml.read? text >>= read? = some b) :
    readData read? fault? text = .error e ↔ ∃ f, fault? b = some f ∧ e = .invalid f := by
  rw [readData, h]
  dsimp only
  cases fault? b with
  | none => simp
  | some f => simp [eq_comm]

end Reading

variable {α : Type} [Number α] {text : String}

namespace Skill

variable {ss r : List (Skill α)} {e : DataError α}

lemma readList_eq_ok_iff (h : Toml.read? text >>= listOfValue? = some ss) :
    readList text = .ok r ↔ r = ss ∧ SoundTable name fault? ss := by
  rw [readList, readData_eq_ok_iff h, Option.map_eq_none_iff, namePass.eq_none_iff]

lemma readList_eq_error_iff (h : Toml.read? text >>= listOfValue? = some ss) :
    readList text = .error e ↔ ∃ f, FirstOffence name fault? nameTaken ss f ∧ e = .invalid (.skill f) := by
  rw [readList, readData_eq_error_iff h]
  simp [Option.map_eq_some_iff, namePass.eq_some_iff]

end Skill

namespace Templates

variable {ts r : Templates α} {e : DataError α}

inductive FirstFault (ts : Templates α) : TemplateFault α → Prop
  | support {f : TemplateFault α}
      (h : FirstOffence Template.name Template.fault? (fun _ => .duplicateSupport) ts.supports f) : FirstFault ts f
  | passive {f : TemplateFault α} (hsupports : SoundTable Template.name Template.fault? ts.supports)
      (h : FirstOffence Template.name Template.fault? (fun _ => .duplicatePassive) ts.passives f) : FirstFault ts f

omit [Number α] in
lemma fault?_eq_none_iff : ts.fault? = none ↔
    SoundTable Template.name Template.fault? ts.supports ∧ SoundTable Template.name Template.fault? ts.passives := by
  rw [fault?, Option.orElse_eq_orElse, Option.orElse_eq_or, Option.or_eq_none_iff, (Template.namePass _).eq_none_iff,
    (Template.namePass _).eq_none_iff]

omit [Number α] in
lemma fault?_eq_some_iff {f : TemplateFault α} : ts.fault? = some f ↔ ts.FirstFault f := by
  rw [fault?, Option.orElse_eq_orElse, Option.orElse_eq_or, Option.or_eq_some_iff, (Template.namePass _).eq_some_iff,
    (Template.namePass _).eq_none_iff, (Template.namePass _).eq_some_iff]
  constructor
  · rintro (h | ⟨hsupports, h⟩)
    · exact .support h
    · exact .passive hsupports h
  · rintro (h | ⟨hsupports, h⟩)
    · exact .inl h
    · exact .inr ⟨hsupports, h⟩

lemma read_eq_ok_iff (h : Toml.read? text >>= ofValue? = some ts) :
    read text = .ok r ↔ r = ts ∧
      SoundTable Template.name Template.fault? ts.supports ∧ SoundTable Template.name Template.fault? ts.passives := by
  rw [read, readData_eq_ok_iff h, Option.map_eq_none_iff, fault?_eq_none_iff]

lemma read_eq_error_iff (h : Toml.read? text >>= ofValue? = some ts) :
    read text = .error e ↔ ∃ f, ts.FirstFault f ∧ e = .invalid (.template f) := by
  rw [read, readData_eq_error_iff h]
  simp [Option.map_eq_some_iff, fault?_eq_some_iff]

end Templates

omit [Number α] in
lemma soundTable_iff {ts : List (Template α)} : SoundTable Template.name Template.fault? ts ↔
    (∀ t ∈ ts, ∀ m ∈ t.modifiers, m.scopeAccepted = true) ∧ (ts.map (·.name)).Nodup := by
  simp only [← Template.fault?_eq_none_iff]
  exact ⟨fun h => ⟨h.own, h.names⟩, fun ⟨hown, hnames⟩ => ⟨hown, hnames⟩⟩

theorem tables_load_whole (text : String) :
    (∀ ss : List (Skill α), Toml.read? text >>= Skill.listOfValue? = some ss →
      (∀ r : List (Skill α), Skill.readList text = .ok r ↔ r = ss ∧ (∀ s ∈ ss, s.fault? = none) ∧ (ss.map (·.name)).Nodup) ∧
        (∀ e : DataError α, Skill.readList text = .error e ↔
          ∃ f, FirstOffence Skill.name Skill.fault? Skill.nameTaken ss f ∧ e = .invalid (.skill f)) ∧
        ∀ d : GameData α, Skill.readList text = .ok d.skills →
          ∀ name s, d.skill? name = some s ↔ s ∈ ss ∧ s.name = name) ∧
      ∀ ts : Templates α, Toml.read? text >>= Templates.ofValue? = some ts →
        (∀ r : Templates α, Templates.read text = .ok r ↔ r = ts ∧
            (∀ t ∈ ts.supports ++ ts.passives, ∀ m ∈ t.modifiers, m.scopeAccepted = true) ∧
            (ts.supports.map (·.name)).Nodup ∧ (ts.passives.map (·.name)).Nodup) ∧
          (∀ e : DataError α, Templates.read text = .error e ↔ ∃ f, ts.FirstFault f ∧ e = .invalid (.template f)) ∧
          ∀ r : Templates α, Templates.read text = .ok r → ∀ name t,
            (r.support? name = some t ↔ t ∈ ts.supports ∧ t.name = name) ∧
              (r.passive? name = some t ↔ t ∈ ts.passives ∧ t.name = name) := by
  refine ⟨fun ss hss => ⟨fun r => ?_, fun e => Skill.readList_eq_error_iff hss, fun d hd name s => ?_⟩,
    fun ts hts => ⟨fun r => ?_, fun e => Templates.read_eq_error_iff hts, fun r hr name t => ?_⟩⟩
  · rw [Skill.readList_eq_ok_iff hss]
    exact and_congr_right fun _ => ⟨fun h => ⟨h.own, h.names⟩, fun ⟨hown, hnames⟩ => ⟨hown, hnames⟩⟩
  · obtain ⟨hskills, hsound⟩ := (Skill.readList_eq_ok_iff hss).mp hd
    rw [GameData.skill?, hskills, find?_eq_some_iff_of_nodup hsound.names]
  · rw [Templates.read_eq_ok_iff hts, soundTable_iff, soundTable_iff]
    simp only [List.forall_mem_append]
    tauto
  · obtain ⟨rfl, hsupports, hpassives⟩ := (Templates.read_eq_ok_iff hts).mp hr
    exact ⟨find?_eq_some_iff_of_nodup hsupports.names, find?_eq_some_iff_of_nodup hpassives.names⟩

def emberText : String :=
  "skills=[\x7bname=\"Ember\",added_dmg_eff_pct=1\x7d,\x7bname=\"Frost\",added_dmg_eff_pct=2\x7d," ++
    "\x7bname=\"Ember\",added_dmg_eff_pct=1,cast_time=0\x7d,\x7bname=\"Gale\",added_dmg_eff_pct=-1\x7d]"

def bareSkill (name : String) (added castTime : ℚ) : Skill ℚ :=
  ⟨name, [], [], added, 1, none, castTime, none, none⟩

def twinText : String :=
  "supports=[\x7bname=\"Zeal\"\x7d]\npassives=[\x7bname=\"Zeal\",buff_mods=[\x7btype=\"DmgPct\",value=1\x7d]\x7d]"

def twins : Templates ℚ where
  supports := [⟨"Zeal", 0, []⟩]
  passives := [⟨"Zeal", 0, [{ effect := .damage, value := 1 }]⟩]

theorem embers_and_twins_load_whole :
    let embers := [bareSkill "Ember" 1 1, bareSkill "Frost" 2 1, bareSkill "Ember" 1 0, bareSkill "Gale" (-1) 1]
    Toml.read? emberText >>= Skill.listOfValue? = some embers ∧
      Skill.readList emberText = .error (.invalid (.skill (.nonPositiveCastTime "Ember")) : DataError ℚ) ∧
      Toml.read? twinText >>= Templates.ofValue? = some twins ∧
      ∃ r : Templates ℚ, Templates.read twinText = .ok r ∧ r.support? "Zeal" = some ⟨"Zeal", 0, []⟩ ∧
        r.passive? "Zeal" = some ⟨"Zeal", 0, [{ effect := .damage, value := 1 }]⟩ := by
  intro embers
  have hembers : Toml.read? emberText >>= Skill.listOfValue? = some embers := by decide +kernel
  have htwins : Toml.read? twinText >>= Templates.ofValue? = some twins := by decide +kernel
  obtain ⟨_, hfault, _⟩ := (tables_load_whole emberText).1 embers hembers
  obtain ⟨hread, _, hfound⟩ := (tables_load_whole twinText).2 twins htwins
  have hok : Templates.read twinText = .ok twins := (hread twins).mpr ⟨rfl, by decide, by decide, by decide⟩
  refine ⟨hembers, (hfault _).mpr ⟨_, ?_, rfl⟩, htwins, twins, hok, ?_, ?_⟩
  · have hbefore : SoundTable Skill.name Skill.fault? (embers.take 2) := ⟨by decide +kernel, by decide +kernel⟩
    exact .own rfl hbefore (by decide +kernel)
  · exact ((hfound twins hok _ _).1).mpr (by decide)
  · exact ((hfound twins hok _ _).2).mpr (by decide)

end CharacterBuild
