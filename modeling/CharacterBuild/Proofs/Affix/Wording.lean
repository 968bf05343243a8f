import Mathlib
import CharacterBuild.Proofs.Affix.Acceptance
import CharacterBuild.Proofs.Affix.Figure

namespace CharacterBuild

namespace Stat

def tellsScope : Stat → Bool
  | attributePoints _ | attributePercent _ | maxSpellBurst | ingenuityOverload | reap => false
  | _ => true

def tellsAdditional : Stat → Bool
  | attributePoints _ | flatDamage | maxSpellBurst | ingenuityOverload | reap => false
  | _ => true

end Stat

variable {α : Type}

lemma Effect.eq_of_stat_eq {e e' : Effect α} (he : e ∈ Effect.bare) (h : e'.stat = e.stat) : e' = e := by
  simp only [bare, List.mem_cons, List.not_mem_nil, or_false] at he
  rcases he with rfl | rfl | rfl | rfl | rfl | rfl | rfl | rfl | rfl | rfl | rfl | rfl | rfl | rfl | rfl | rfl
  all_goals cases e' <;> first | rfl | cases h

namespace Affix

open Number

variable [Number α]

/-- A cooldown whose text is no number leaves a reap with the standard one. -/
def spokenCooldown (x : α) : α :=
  (unsignedFigure? x).getD 1

def spokenEffect? : Effect α → Option (Effect α)
  | .flatDamage type lo hi => do some (.flatDamage type (← unsignedFigure? lo) (← unsignedFigure? hi))
  | .reap cooldown => if spokenCooldown cooldown ≤ 0 then none else some (.reap (spokenCooldown cooldown))
  | e => some e

def spokenValue? (m : Modifier α) : Option α :=
  match m.effect with
  | .flatDamage _ lo hi => do some (((← unsignedFigure? lo) + (← unsignedFigure? hi)) / 2)
  | .attributePoints _ | .maxSpellBurst => signedFigure? m.value
  | .ingenuityOverload => (· / 100) <$> figure? (m.value * 100)
  | .reap _ => unsignedFigure? m.value
  | _ => percentFigure? m.value

def spoken? (m : Modifier α) : Option (Modifier α) := do
  some {
    effect := ← spokenEffect? m.effect
    value := ← spokenValue? m
    scope := if m.stat.tellsScope then m.scope else .global
    additional := if m.stat.tellsAdditional then m.additional else true }

/-- Words that the form writes for a modifier, and what it reads them as when a line gives them back. -/
structure Spells (f : Form α) (ws : List String) (m : Modifier α) : Prop where
  words : ∀ w ∈ ws, IsWord w
  name : formName (ws.map heard) = f.name
  read : f.read? (ws.map heard) = spoken? m

variable {m : Modifier α} {f : Form α} {ws : List String} {text : String}

lemma parse_eq_read (hf : f ∈ forms) (hname : formName (tokens text) = f.name) :
    parse text = f.read? (tokens text) := by
  refine Option.ext fun m => (readWords_eq_some_iff (.refl _)).trans ⟨?_, fun h => ⟨f, hf, h⟩⟩
  rintro ⟨g, hg, h⟩
  -- the words alone tell the name of the form that has read them
  obtain rfl := List.inj_on_of_nodup_map nodup_names hf hg (hname.symm.trans (formName_of_read hg h))
  exact h

lemma Spells.parse_intercalate (hf : f ∈ forms) (h : Spells f ws m) : parse (" ".intercalate ws) = spoken? m := by
  have htokens := tokens_intercalate h.words
  rw [parse_eq_read hf (by rw [htokens, h.name]), htokens, h.read]

lemma isPlainWord_scope {w : String} {s : Scope} (hw : w ∈ scopeWord s) : IsPlainWord w := by
  revert w
  cases s <;> decide

lemma scopeWord_eq {s : Scope} (hs : s ≠ .global) : scopeWord s = [Named.name s] := by
  cases s <;> first | rfl | exact absurd rfl hs

section Effects

omit [Number α]

lemma bare_of_phrase {e : Effect α} (he : (ws, e) ∈ phrases) :
    e ∈ Effect.bare ∧ e.stat.tellsScope = true ∧ e.stat.tellsAdditional = true ∧ ∀ w ∈ ws, IsPlainWord w := by
  simp only [phrases, List.mem_cons, Prod.mk.injEq, List.not_mem_nil, or_false] at he
  rcases he with ⟨rfl, rfl⟩ | ⟨rfl, rfl⟩ | ⟨rfl, rfl⟩ | ⟨rfl, rfl⟩ | ⟨rfl, rfl⟩ | ⟨rfl, rfl⟩ | ⟨rfl, rfl⟩ |
    ⟨rfl, rfl⟩ | ⟨rfl, rfl⟩
  all_goals exact ⟨by simp [Effect.bare], rfl, rfl, by decide⟩

lemma bare_of_critical {last : String} {e : Effect α} (he : (last, e) ∈ criticalEffects) :
    e ∈ Effect.bare ∧ e.stat.tellsScope = true ∧ e.stat.tellsAdditional = true ∧ IsPlainWord last := by
  rcases mem_criticalEffects_iff.mp he with ⟨rfl, rfl⟩ | ⟨rfl, rfl⟩
  all_goals exact ⟨by simp [Effect.bare], rfl, rfl, by decide⟩

lemma bare_of_resistance {e : Effect α} (he : (ws, e) ∈ resistanceEffects) :
    e ∈ Effect.bare ∧ e.stat.tellsScope = true ∧ e.stat.tellsAdditional = true ∧ ∀ w ∈ ws, IsPlainWord w := by
  rcases mem_resistanceEffects_iff.mp he with ⟨rfl, rfl⟩ | ⟨rfl, rfl⟩
  all_goals exact ⟨by simp [Effect.bare], rfl, rfl, by decide⟩

lemma mem_criticalScopes {last : String} {e : Effect α} {s : Scope} (he : (last, e) ∈ criticalEffects)
    (hs : e.stat.accepts s = true) : (scopeWord s, s) ∈ criticalScopes := by
  have hsame : e.stat.accepts s = Stat.critRating.accepts s := by
    rcases mem_criticalEffects_iff.mp he with ⟨_, rfl⟩ | ⟨_, rfl⟩ <;> rfl
  rw [hsame] at hs
  revert hs
  cases s <;> decide

end Effects

lemma resistanceScope_mem : ∀ {s : Scope}, Stat.resistance.accepts s = true →
    (match s with
      | .global => "all"
      | s => Named.name s, s) ∈ resistanceScopes := by
  intro s
  cases s <;> decide

lemma isPlainWord_resistanceScope {v : String} {s : Scope} (h : (v, s) ∈ resistanceScopes) : IsPlainWord v := by
  rcases mem_resistanceScopes_iff.mp h with ⟨rfl, _⟩ | ⟨rfl, _⟩ | ⟨rfl, _⟩ | ⟨rfl, _⟩ | ⟨rfl, _⟩ | ⟨rfl, _⟩ | ⟨rfl, _⟩ <;> decide

lemma isPlainWord_damageType (type : DamageType) : IsPlainWord (Named.name type) := by
  cases type <;> decide

lemma isPlainWord_fullName (a : Attribute) : IsPlainWord a.fullName := by
  cases a <;> decide

lemma fullName_mem (a : Attribute) : (a.fullName, a) ∈ attributeWords := by
  cases a <;> decide

lemma isWord_rate {w : String} (m : Modifier α) (hw : w ∈ rate m) : IsWord w := by
  rcases List.mem_cons.mp hw with rfl | hw
  · exact (isShown_percent m.value).isWord
  · cases h : m.additional with
    | false => simp [additionalWord, h] at hw
    | true =>
      obtain rfl : w = "additional" := by simpa [additionalWord, h] using hw
      decide

lemma map_heard_rate (m : Modifier α) :
    (rate m).map heard = heard (percent m.value) :: additionalWord m.additional := by
  rw [rate, List.map_cons]
  cases m.additional <;> rfl

lemma isLead_rate (m : Modifier α) : IsLead ((rate m).map heard) := by
  have htells := (isShown_percent m.value).notMem_tellingWords (head_percent m.value)
  rw [map_heard_rate]
  cases m.additional with
  | false => exact .bare htells
  | true => exact .additional htells

lemma rate?_heard (m : Modifier α) (rest : List String) (hrest : rest.head? ≠ some "additional") :
    rate? ((rate m).map heard ++ rest) = (percentFigure? m.value).map fun x => (x, m.additional, rest) := by
  rw [map_heard_rate, List.cons_append, rate?, percent?_heard (isShown_percent m.value), percent?_percent]
  cases percentFigure? m.value with
  | none => rfl
  | some x =>
    cases m.additional with
    | true => rfl
    | false =>
      simp only [additionalWord, Option.bind_eq_bind, Option.bind_some, Option.map_some]
      split
      · next heq =>
        rw [if_neg Bool.false_ne_true, List.nil_append] at heq
        exact absurd (congrArg List.head? heq) hrest
      · rfl

lemma Spells.of_rate (hws : ∀ w ∈ ws, IsPlainWord w) (hname : formName ((rate m).map heard ++ ws) = f.name)
    (hread : f.read? ((rate m).map heard ++ ws) = spoken? m) : Spells f (rate m ++ ws) m := by
  have hheard : (rate m ++ ws).map heard = (rate m).map heard ++ ws := by rw [List.map_append, map_heard hws]
  rw [← hheard] at hname hread
  refine ⟨fun w hw => ?_, hname, hread⟩
  rcases List.mem_append.mp hw with hw | hw
  · exact isWord_rate m hw
  · exact (hws w hw).toIsWord

lemma Spells.of_first {w : String} (hw : IsShown w.toList) (hws : ∀ v ∈ ws, IsPlainWord v)
    (hname : formName (heard w :: ws) = f.name) (hread : f.read? (heard w :: ws) = spoken? m) : Spells f (w :: ws) m := by
  have hheard : (w :: ws).map heard = heard w :: ws := by rw [List.map_cons, map_heard hws]
  rw [← hheard] at hname hread
  exact ⟨List.forall_mem_cons.mpr ⟨hw.isWord, fun v hv => (hws v hv).toIsWord⟩, hname, hread⟩

lemma spoken?_eq_map {e : Effect α} (h : spokenEffect? m.effect = some e) :
    spoken? m = (spokenValue? m).map fun x =>
      { effect := e
        value := x
        scope := if m.stat.tellsScope then m.scope else .global
        additional := if m.stat.tellsAdditional then m.additional else true } := by
  rw [spoken?, h]
  cases spokenValue? m <;> rfl

lemma spoken?_of_tells (hs : m.stat.tellsScope = true) (ha : m.stat.tellsAdditional = true) :
    spoken? m = (percentFigure? m.value).map fun x =>
      { effect := m.effect, value := x, scope := m.scope, additional := m.additional } := by
  obtain ⟨effect, value, scope, additional, per, target, unscalable⟩ := m
  cases effect
  case flatDamage => cases ha
  case attributePoints | attributePercent | maxSpellBurst | ingenuityOverload | reap => cases hs
  all_goals exact spoken?_eq_map rfl

namespace Form

lemma spells_damage (h : damage.write? m = some ws) : Spells damage ws m := by
  obtain ⟨hstat, hws⟩ := Option.ite_none_right_eq_some.mp h
  obtain rfl := Option.some.inj hws
  have heffect : m.effect = .damage := Effect.eq_of_stat_eq (by simp [Effect.bare]) hstat
  rw [List.append_assoc]
  refine .of_rate (fun w hw => ?_) ?_ ?_
  · rcases List.mem_append.mp hw with hw | hw
    · exact isPlainWord_scope hw
    · obtain rfl := List.mem_singleton.mp hw
      decide
  · by_cases hs : m.scope = .global
    · rw [hs]
      exact (isLead_rate m).formName_last "damage"
    · have hname := (isLead_rate m).formName_append [] (Named.name m.scope) "damage"
      rw [scopeWord_eq hs]
      refine hname.trans ?_
      cases m.scope <;> rfl
  · rw [spoken?_of_tells (by rw [hstat]; rfl) (by rw [hstat]; rfl), heffect]
    dsimp only [damage]
    rw [rate?_heard m _ (by cases m.scope <;> decide)]
    cases percentFigure? m.value with
    | none => rfl
    | some x =>
      by_cases hs : m.scope = .global
      · rw [hs]
        rfl
      · simp [scopeWord_eq hs, ofWord?_name]

lemma spells_phrase {name : String} {e : Effect α} (init : List String) {u v : String}
    (he : (init ++ [u, v], e) ∈ phrases) (hname : ending u v = name)
    (h : (phrase name e (init ++ [u, v])).write? m = some ws) : Spells (phrase name e (init ++ [u, v])) ws m := by
  obtain ⟨⟨hstat, hglobal⟩, hws⟩ := Option.ite_none_right_eq_some.mp h
  obtain rfl := Option.some.inj hws
  obtain ⟨hbare, hscope, hadditional, hplain⟩ := bare_of_phrase he
  refine .of_rate hplain ?_ ?_
  · exact ((isLead_rate m).formName_append init u v).trans hname
  · rw [spoken?_of_tells (hstat ▸ hscope) (hstat ▸ hadditional), Effect.eq_of_stat_eq hbare hstat, hglobal]
    dsimp only [phrase]
    rw [rate?_heard m _ (exists_phrase he).1]
    cases percentFigure? m.value with
    | none => rfl
    | some x => simp

lemma spells_critical {name last : String} {e : Effect α} (he : (last, e) ∈ criticalEffects)
    (hname : ending "strike" last = name) (h : (critical name e last).write? m = some ws) :
    Spells (critical name e last) ws m := by
  obtain ⟨⟨hstat, haccepted⟩, hws⟩ := Option.ite_none_right_eq_some.mp h
  obtain rfl := Option.some.inj hws
  obtain ⟨hbare, hscope, hadditional, hplain⟩ := bare_of_critical he
  have haccepts : e.stat.accepts m.scope = true := by
    rw [← hstat]
    exact haccepted
  have hscopes := mem_criticalScopes he haccepts
  rw [List.append_assoc]
  refine .of_rate (fun w hw => ?_) ?_ ?_
  · simp only [List.mem_append, List.mem_cons, List.not_mem_nil, or_false] at hw
    rcases hw with hw | rfl | rfl | rfl
    · exact isPlainWord_scope hw
    · decide
    · decide
    · exact hplain
  · have hwords := (isLead_rate m).formName_append (scopeWord m.scope ++ ["critical"]) "strike" last
    rw [List.append_assoc] at hwords
    exact hwords.trans hname
  · rw [spoken?_of_tells (hstat ▸ hscope) (hstat ▸ hadditional), Effect.eq_of_stat_eq hbare hstat]
    dsimp only [critical]
    rcases mem_criticalScopes_iff.mp hscopes with ⟨hw, hs⟩ | ⟨hw, hs⟩ | ⟨hw, hs⟩
    all_goals
      rw [hw, hs, rate?_heard m _ (by simp)]
      cases percentFigure? m.value with
      | none => rfl
      | some x => simp

lemma resistance_wording (h : resistance.write? m = some ws) :
    ∃ kind v, (kind, m.effect) ∈ resistanceEffects ∧ (v, m.scope) ∈ resistanceScopes ∧ m.additional = true ∧
      ws = percent m.value :: kind ++ [v, "resistance"] := by
  unfold resistance at h
  dsimp only at h
  split at h
  case h_3 => cases h
  case' h_1 hstat =>
    have heffect : ([], m.effect) ∈ resistanceEffects := by
      rw [Effect.eq_of_stat_eq (e := .resistance) (by simp [Effect.bare]) hstat]
      simp [resistanceEffects]
  case' h_2 hstat =>
    have heffect : (["max"], m.effect) ∈ resistanceEffects := by
      rw [Effect.eq_of_stat_eq (e := .maxResistance) (by simp [Effect.bare]) hstat]
      simp [resistanceEffects]
  all_goals
    obtain ⟨kind, hkind, h⟩ := Option.bind_eq_some_iff.mp h
    obtain rfl := Option.some.inj hkind
    obtain ⟨_, hguard, hws⟩ := Option.bind_eq_some_iff.mp h
    obtain ⟨hadditional, haccepted⟩ := (Option.guard_eq_some' _).mp hguard
    rw [Modifier.scopeAccepted, Modifier.stat, accepts_resistanceEffect heffect] at haccepted
    exact ⟨_, _, heffect, resistanceScope_mem haccepted, hadditional, (Option.some.inj hws).symm⟩

lemma spells_resistance (h : resistance.write? m = some ws) : Spells resistance ws m := by
  obtain ⟨kind, v, heffect, hscope, hadditional, rfl⟩ := resistance_wording h
  obtain ⟨_, htellsScope, htellsAdditional, hkind⟩ := bare_of_resistance heffect
  obtain ⟨hread, haccepts⟩ := resistanceScope?_of_mem hscope
  have hfirst := isShown_percent m.value
  have hplain : ∀ w ∈ kind ++ [v, "resistance"], IsPlainWord w := by
    intro w hw
    simp only [List.mem_append, List.mem_cons, List.not_mem_nil, or_false] at hw
    rcases hw with hw | rfl | rfl
    · exact hkind w hw
    · exact isPlainWord_resistanceScope hscope
    · decide
  refine .of_first hfirst hplain ?_ ?_
  · exact formName_cons (hfirst.notMem_tellingWords (head_percent m.value)) (_ :: kind) rfl
  · rw [spoken?_of_tells htellsScope htellsAdditional, hadditional]
    rw [← accepts_resistanceEffect heffect] at haccepts
    rcases mem_resistanceEffects_iff.mp heffect with ⟨rfl, he⟩ | ⟨rfl, he⟩
    all_goals
      rw [he] at haccepts ⊢
      simp only [resistance, List.cons_append, percent?_heard hfirst, percent?_percent]
      cases percentFigure? m.value with
      | none => rfl
      | some x => simp [hread, haccepts]

lemma spells_attributePercent {a : Attribute} (h : m.effect = .attributePercent a) :
    Spells attributes (rate m ++ [a.fullName]) m := by
  have hword := Attribute.ofWord?_of_mem (fullName_mem a)
  have hrate := rate?_heard m [a.fullName] (by cases a <;> decide)
  have hsigned : (signed? (heard (percent m.value)) : Option α) = none := by
    rw [signed?_heard (isShown_percent m.value), signed?_percent]
  refine .of_rate (by simp [isPlainWord_fullName]) ?_ ?_
  · exact ((isLead_rate m).formName_last _).trans (ending_attribute "" hword)
  · rw [map_heard_rate] at hrate ⊢
    obtain ⟨effect, value, scope, additional, per, target, unscalable⟩ := m
    subst h
    rw [spoken?_eq_map rfl]
    cases additional
    all_goals
      simp only [additionalWord, if_true, Bool.false_eq_true, if_false, List.cons_append, List.nil_append] at hrate ⊢
      simp only [attributes, hsigned, hrate]
      change _ = (percentFigure? value).map _
      cases percentFigure? value with
      | none => rfl
      | some x =>
        simp only [Option.map_some, Option.bind_eq_bind, Option.bind_some, hword]
        rfl

lemma spells_attributePoints {a : Attribute} (h : m.effect = .attributePoints a) :
    Spells attributes [signed m.value, a.fullName] m := by
  have hword := Attribute.ofWord?_of_mem (fullName_mem a)
  have hshown := isShown_signed m.value
  refine .of_first hshown (by simp [isPlainWord_fullName]) ?_ ?_
  · rw [formName_cons (hshown.notMem_tellingWords (head_signed m.value)) [] rfl, ending_attribute _ hword]
    rfl
  · obtain ⟨effect, value, scope, additional, per, target, unscalable⟩ := m
    subst h
    rw [spoken?_eq_map rfl]
    simp only [attributes, rate?, signed?_heard hshown, signed?_signed, percent?_heard hshown, percent?_signed]
    change _ = (signedFigure? value).map _
    cases signedFigure? value with
    | none => rfl
    | some x =>
      simp only [hword]
      rfl

lemma spells_attributes (h : attributes.write? m = some ws) : Spells attributes ws m := by
  unfold attributes at h
  dsimp only at h
  split at h
  · next a heffect =>
    obtain rfl := Option.some.inj h
    exact spells_attributePoints heffect
  · next a heffect =>
    obtain rfl := Option.some.inj h
    exact spells_attributePercent heffect
  · cases h

lemma spells_maxSpellBurst (h : maxSpellBurst.write? m = some ws) : Spells maxSpellBurst ws m := by
  obtain ⟨hstat, hws⟩ := Option.ite_none_right_eq_some.mp h
  obtain rfl := Option.some.inj hws
  obtain ⟨effect, value, scope, additional, per, target, unscalable⟩ := m
  obtain rfl : effect = .maxSpellBurst := Effect.eq_of_stat_eq (by simp [Effect.bare]) hstat
  have hshown := isShown_signed value
  refine .of_first hshown (by decide) ?_ ?_
  · exact formName_cons (hshown.notMem_tellingWords (head_signed value)) [_, _] rfl
  · simp only [maxSpellBurst, signed?_heard hshown, signed?_signed]
    rfl

lemma spells_ingenuityOverload (h : ingenuityOverload.write? m = some ws) : Spells ingenuityOverload ws m := by
  obtain ⟨hstat, hws⟩ := Option.ite_none_right_eq_some.mp h
  obtain rfl := Option.some.inj hws
  obtain ⟨effect, value, scope, additional, per, target, unscalable⟩ := m
  obtain rfl : effect = .ingenuityOverload := Effect.eq_of_stat_eq (by simp [Effect.bare]) hstat
  have hshown := (isShown_amount (value * 100)).append_percent
  have hread : percent? (heard (amount (value * 100) ++ "%")) = (· / 100) <$> figure? (value * 100) := by
    rw [percent?_heard hshown, percent?_append, signed?_amount]
  have hheard : ["ingenuity", "overload", "deals", amount (value * 100) ++ "%", "of", "spell", "burst", "damage"].map
        heard =
      ["ingenuity", "overload", "deals", heard (amount (value * 100) ++ "%"), "of", "spell", "burst", "damage"] := by
    simp only [List.map_cons, List.map_nil]
    rfl
  constructor
  case words =>
    intro w hw
    simp only [List.mem_cons, List.not_mem_nil, or_false] at hw
    rcases hw with rfl | rfl | rfl | rfl | rfl | rfl | rfl | rfl
    case inr.inr.inr.inl => exact hshown.isWord
    all_goals decide
  case name =>
    rw [hheard]
    rfl
  case read =>
    rw [hheard]
    simp only [ingenuityOverload, hread]
    rfl

lemma flatDamage_wording (h : flatDamage.write? m = some ws) :
    ∃ type lo hi tail, m.effect = .flatDamage type lo hi ∧ (tail, m.scope) ∈ flatDamageScopes ∧
      ws = ["adds", amount lo, "-", amount hi, Named.name type, "damage"] ++ tail := by
  unfold flatDamage at h
  dsimp only at h
  split at h
  · next type lo hi heffect =>
    split at h
    case h_4 => cases h
    all_goals
      next hscope => exact ⟨type, lo, hi, _, heffect, by simp [flatDamageScopes, hscope], (Option.some.inj h).symm⟩
  · cases h

lemma isPlainWord_flatDamageScope {tail : List String} {s : Scope} (h : (tail, s) ∈ flatDamageScopes) :
    ∀ w ∈ tail, IsPlainWord w := by
  rcases mem_flatDamageScopes_iff.mp h with ⟨rfl, _⟩ | ⟨rfl, _⟩ | ⟨rfl, _⟩ <;> decide

lemma spells_flatDamage (h : flatDamage.write? m = some ws) : Spells flatDamage ws m := by
  obtain ⟨type, lo, hi, tail, heffect, htail, rfl⟩ := flatDamage_wording h
  have hlo := isShown_amount lo
  have hhi := isShown_amount hi
  have htype := isPlainWord_damageType type
  have hplain := isPlainWord_flatDamageScope htail
  have hheard : (["adds", amount lo, "-", amount hi, Named.name type, "damage"] ++ tail).map heard =
      ["adds", heard (amount lo), "-", heard (amount hi), Named.name type, "damage"] ++ tail := by
    rw [List.map_append, map_heard hplain]
    simp only [List.map_cons, List.map_nil, htype.heard_eq]
    rfl
  constructor
  case words =>
    intro w hw
    simp only [List.cons_append, List.nil_append, List.mem_cons] at hw
    rcases hw with rfl | rfl | rfl | rfl | rfl | rfl | hw
    case inr.inl => exact hlo.isWord
    case inr.inr.inr.inl => exact hhi.isWord
    case inr.inr.inr.inr.inl => exact htype.toIsWord
    case inr.inr.inr.inr.inr.inr => exact (hplain w hw).toIsWord
    all_goals decide
  case name =>
    rw [hheard]
    rfl
  case read =>
    rw [hheard]
    obtain ⟨effect, value, scope, additional, per, target, unscalable⟩ := m
    subst heffect
    rcases mem_flatDamageScopes_iff.mp htail with ⟨rfl, rfl⟩ | ⟨rfl, rfl⟩ | ⟨rfl, rfl⟩
    all_goals
      simp only [flatDamage, spoken?, spokenEffect?, spokenValue?, List.cons_append, List.nil_append, amount?_heard hlo,
        amount?_heard hhi, amount?_amount, ofWord?_name]
      cases unsignedFigure? lo with
      | none => rfl
      | some x => cases unsignedFigure? hi <;> rfl

lemma reap_wording (h : reap.write? m = some ws) :
    ∃ cooldown, m.effect = .reap cooldown ∧
      ws = ["reaps", amount m.value, "s", "of", "damage", "over", "time.", "the", "effect", "has", "a", amount cooldown,
        "s", "cooldown"] := by
  unfold reap at h
  dsimp only at h
  split at h
  · next cooldown heffect => exact ⟨cooldown, heffect, (Option.some.inj h).symm⟩
  · cases h

lemma cooldown?_ending (w : String) :
    (cooldown? ["the", "effect", "has", "a", w, "s", "cooldown"] : Option α) = amount? w := by
  cases hw : (amount? w : Option α) <;> simp [cooldown?, hw]

lemma spells_reap (h : reap.write? m = some ws) : Spells reap ws m := by
  obtain ⟨cooldown, heffect, rfl⟩ := reap_wording h
  have hvalue := isShown_amount m.value
  have hcooldown := isShown_amount cooldown
  -- the point that ends the first clause does not stay with its word
  have hheard : ["reaps", amount m.value, "s", "of", "damage", "over", "time.", "the", "effect", "has", "a",
        amount cooldown, "s", "cooldown"].map heard =
      ["reaps", heard (amount m.value), "s", "of", "damage", "over", "time", "the", "effect", "has", "a",
        heard (amount cooldown), "s", "cooldown"] := by
    simp only [List.map_cons, List.map_nil]
    rfl
  constructor
  case words =>
    intro w hw
    simp only [List.mem_cons, List.not_mem_nil, or_false] at hw
    rcases hw with rfl | rfl | rfl | rfl | rfl | rfl | rfl | rfl | rfl | rfl | rfl | rfl | rfl | rfl
    case inr.inl => exact hvalue.isWord
    case inr.inr.inr.inr.inr.inr.inr.inr.inr.inr.inr.inl => exact hcooldown.isWord
    all_goals decide
  case name =>
    rw [hheard]
    rfl
  case read =>
    rw [hheard]
    obtain ⟨effect, value, scope, additional, per, target, unscalable⟩ := m
    subst heffect
    simp only [reap, cooldown?_ending, amount?_heard hvalue, amount?_heard hcooldown, amount?_amount, spoken?,
      spokenEffect?, spokenValue?]
    rw [← spokenCooldown]
    by_cases hzero : spokenCooldown cooldown ≤ 0
    · cases unsignedFigure? value <;> simp [hzero]
    · cases unsignedFigure? value with
      | none => simp
      | some x =>
        simp only [hzero, not_false_eq_true, guard_true]
        rfl

end Form
end Affix
end CharacterBuild
