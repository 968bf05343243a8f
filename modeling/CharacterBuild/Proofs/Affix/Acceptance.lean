import Mathlib
import CharacterBuild.Proofs.Affix.Cooldown
import CharacterBuild.Proofs.Affix.Unambiguous
import CharacterBuild.Proofs.Affix.Word

namespace CharacterBuild

lemma Attribute.ofWord?_of_mem {v : String} {a : Attribute} (h : (v, a) ∈ Affix.attributeWords) :
    Attribute.ofWord? v = some a := by
  simp only [Affix.attributeWords, List.mem_cons, Prod.mk.injEq, List.not_mem_nil, or_false] at h
  rcases h with ⟨rfl, rfl⟩ | ⟨rfl, rfl⟩ | ⟨rfl, rfl⟩ | ⟨rfl, rfl⟩ | ⟨rfl, rfl⟩ | ⟨rfl, rfl⟩ <;> decide

lemma Attribute.mem_attributeWords {v : String} {a : Attribute} (hv : Text.IsSmall v)
    (h : Attribute.ofWord? v = some a) : (v, a) ∈ Affix.attributeWords := by
  have hfound := List.find?_some h
  rw [Bool.or_eq_true, Text.sameLetters_iff hv (by cases a <;> decide),
    Text.sameLetters_iff hv (by cases a <;> decide)] at hfound
  rcases hfound with rfl | rfl <;> cases a <;> decide

namespace Affix

variable {α : Type} [Number α] {m : Modifier α} {f : Form α} {ts lead : List String} {x : α} {b : Bool}

lemma resistanceScope?_of_mem {v : String} {s : Scope} (h : (v, s) ∈ resistanceScopes) :
    Form.resistanceScope? v = some s ∧ Stat.resistance.accepts s = true := by
  rcases mem_resistanceScopes_iff.mp h with ⟨rfl, rfl⟩ | ⟨rfl, rfl⟩ | ⟨rfl, rfl⟩ | ⟨rfl, rfl⟩ | ⟨rfl, rfl⟩ | ⟨rfl, rfl⟩ | ⟨rfl, rfl⟩ <;> decide

lemma mem_resistanceScopes {v : String} {s : Scope} (hv : Text.IsSmall v) (hs : Form.resistanceScope? v = some s)
    (hacc : Stat.resistance.accepts s = true) : (v, s) ∈ resistanceScopes := by
  unfold Form.resistanceScope? at hs
  split at hs
  · obtain rfl := Option.some.inj hs
    decide
  · obtain rfl := (Named.ofWord?_eq_some_iff hv).mp hs
    revert hacc
    cases s <;> decide

omit [Number α] in
lemma accepts_resistanceEffect {ws : List String} {e : Effect α} (he : (ws, e) ∈ resistanceEffects) (s : Scope) :
    e.stat.accepts s = Stat.resistance.accepts s := by
  rcases mem_resistanceEffects_iff.mp he with ⟨rfl, rfl⟩ | ⟨rfl, rfl⟩ <;> rfl

lemma sentence_of_phrase {name : String} {ws : List String} {e : Effect α} (he : (ws, e) ∈ phrases)
    (h : (Form.phrase name e ws).read? ts = some m) : Sentence ts m := by
  obtain ⟨lead, x, b, hlead, rfl, rfl⟩ := Form.phrase_words h
  exact .phrase hlead he

lemma sentence_of_critical {name last : String} {e : Effect α} (he : (last, e) ∈ criticalEffects)
    (h : (Form.critical name e last).read? ts = some m) : Sentence ts m := by
  obtain ⟨lead, x, b, ws, s, hlead, hs, rfl, rfl⟩ := Form.critical_words h
  exact .critical hlead hs he

lemma sentence_of_read (hsmall : ∀ w ∈ ts, Text.IsSmall w) (hf : f ∈ forms) (h : f.read? ts = some m) :
    Sentence ts m := by
  simp only [forms, List.mem_cons, List.not_mem_nil, or_false] at hf
  rcases hf with rfl | rfl | rfl | rfl | rfl | rfl | rfl | rfl | rfl | rfl | rfl | rfl | rfl | rfl | rfl | rfl | rfl | rfl
  · obtain ⟨lead, x, b, hlead, ⟨rfl, rfl⟩ | ⟨w, s, rfl, hw, rfl⟩⟩ := Form.damage_words h
    · exact .damage hlead
    · obtain rfl := (Named.ofWord?_eq_some_iff (hsmall w (by simp))).mp hw
      exact .scopedDamage hlead s
  · exact sentence_of_phrase (by simp [phrases]) h
  · exact sentence_of_critical (by simp [criticalEffects]) h
  · exact sentence_of_critical (by simp [criticalEffects]) h
  · exact sentence_of_phrase (by simp [phrases]) h
  · exact sentence_of_phrase (by simp [phrases]) h
  · exact sentence_of_phrase (by simp [phrases]) h
  · exact sentence_of_phrase (by simp [phrases]) h
  · obtain ⟨w, v, ws, x, s, e, hw, he, hv, hacc, rfl, rfl⟩ := Form.resistance_words h
    rw [accepts_resistanceEffect he] at hacc
    exact .resistance hw he (mem_resistanceScopes (hsmall v (by simp)) hv hacc)
  · rcases Form.attributes_words h with ⟨w, v, x, a, hw, hv, rfl, rfl⟩ | ⟨lead, v, x, b, a, hlead, hv, rfl, rfl⟩
    · exact .attributePoints hw (Attribute.mem_attributeWords (hsmall v (by simp)) hv)
    · exact .attributePercent hlead (Attribute.mem_attributeWords (hsmall v (by simp)) hv)
  · obtain ⟨v, w, u, ws, x, y, s, type, hx, hy, hu, hs, rfl, rfl⟩ := Form.flatDamage_words h
    obtain rfl := (Named.ofWord?_eq_some_iff (hsmall u (by simp))).mp hu
    exact .flatDamage hx hy type hs
  · obtain ⟨w, x, hw, rfl, rfl⟩ := Form.maxSpellBurst_words h
    exact .maxSpellBurst hw
  · exact sentence_of_phrase (by simp [phrases]) h
  · exact sentence_of_phrase (by simp [phrases]) h
  · obtain ⟨w, x, hw, rfl, rfl⟩ := Form.ingenuityOverload_words h
    exact .ingenuityOverload hw
  · obtain ⟨w, tail, x, hw, hpos, rfl, rfl⟩ := Form.reap_words h
    exact .reap hw (cooldown_iff.mpr rfl) hpos
  · exact sentence_of_phrase (by simp [phrases]) h
  · exact sentence_of_phrase (by simp [phrases]) h

lemma sentence_of_parse {text : String} (h : parse text = some m) : Sentence (tokens text) m := by
  obtain ⟨f, hf, hread⟩ := (readWords_eq_some_iff (.refl _)).mp h
  exact sentence_of_read (fun w hw => isSmall_of_mem_tokens hw) hf hread

lemma ofWord?_name {τ : Type} [Named τ] [DistinctNames τ] (t : τ) : Named.ofWord? (Named.name t) = some t :=
  (Named.ofWord?_eq_some_iff (DistinctNames.isSmall_name t)).mpr rfl

namespace Form

lemma read_phrase {name : String} {e : Effect α} {wording : List String} (h : Rate lead x b)
    (hne : wording.head? ≠ some "additional") :
    (phrase name e wording).read? (lead ++ wording) = some { effect := e, value := x, additional := b } := by
  refine Option.bind_eq_some_iff.mpr ⟨_, h.rate?_append hne, ?_⟩
  exact Option.bind_eq_some_iff.mpr ⟨(), (Option.guard_eq_some' _).mpr rfl, rfl⟩

lemma read_critical {name last : String} {e : Effect α} {ws : List String} {s : Scope} (h : Rate lead x b)
    (hs : (ws, s) ∈ criticalScopes) :
    (critical name e last).read? (lead ++ ws ++ ["critical", "strike", last]) =
      some { effect := e, value := x, scope := s, additional := b } := by
  rw [List.append_assoc]
  rcases mem_criticalScopes_iff.mp hs with ⟨rfl, rfl⟩ | ⟨rfl, rfl⟩ | ⟨rfl, rfl⟩
  all_goals
    refine Option.bind_eq_some_iff.mpr ⟨_, h.rate?_append (by simp), ?_⟩
    exact Option.bind_eq_some_iff.mpr ⟨(), (Option.guard_eq_some' _).mpr rfl, rfl⟩

lemma read_scopedDamage (h : Rate lead x b) (s : Scope) :
    damage.read? (lead ++ [Named.name s, "damage"]) =
      some { effect := .damage, value := x, scope := s, additional := b } := by
  have hne : [Named.name s, "damage"].head? ≠ some "additional" := by cases s <;> decide
  simp [damage, h.rate?_append hne, ofWord?_name s]

lemma read_resistance {w v : String} {ws : List String} {s : Scope} {e : Effect α} (h : IsPercent w x)
    (he : (ws, e) ∈ resistanceEffects) (hs : (v, s) ∈ resistanceScopes) :
    resistance.read? (w :: ws ++ [v, "resistance"]) =
      some { effect := e, value := x, scope := s, additional := true } := by
  obtain ⟨hscope, hacc⟩ := resistanceScope?_of_mem hs
  rw [← accepts_resistanceEffect he] at hacc
  rw [← percent?_eq_some_iff] at h
  rcases mem_resistanceEffects_iff.mp he with ⟨rfl, rfl⟩ | ⟨rfl, rfl⟩ <;> simp [resistance, h, hscope, hacc]

lemma read_attributePoints {w v : String} {a : Attribute} (h : IsSigned w x) (ha : (v, a) ∈ attributeWords) :
    attributes.read? [w, v] = some { effect := .attributePoints a, value := x, additional := true } := by
  simp [attributes, signed?_eq_some_iff.mpr h, Attribute.ofWord?_of_mem ha]

lemma read_attributePercent {v : String} {a : Attribute} (h : Rate lead x b) (ha : (v, a) ∈ attributeWords) :
    attributes.read? (lead ++ [v]) = some { effect := .attributePercent a, value := x, additional := b } := by
  have hv := Attribute.ofWord?_of_mem ha
  have hne : [v].head? ≠ some "additional" := by
    rintro hadd
    obtain rfl := Option.some.inj hadd
    revert ha
    cases a <;> decide
  have hrate := h.rate?_append hne
  cases h with
  | bare h =>
    have hunsigned : signed? _ = none := Option.eq_none_iff_forall_ne_some.mpr fun y hy =>
      h.not_isSigned (signed?_eq_some_iff.mp hy)
    simp only [List.cons_append, List.nil_append] at hrate ⊢
    simp [attributes, hunsigned, hrate, hv]
  | additional h =>
    simp only [List.cons_append, List.nil_append] at hrate ⊢
    simp [attributes, hrate, hv]

lemma read_flatDamage {v w : String} {ws : List String} {y : α} {s : Scope} (hx : IsAmount v x) (hy : IsAmount w y)
    (type : DamageType) (hs : (ws, s) ∈ flatDamageScopes) :
    flatDamage.read? (["adds", v, "-", w, Named.name type, "damage"] ++ ws) =
      some { effect := .flatDamage type x y, value := (x + y) / 2, scope := s, additional := true } := by
  rw [← amount?_eq_some_iff] at hx hy
  rcases mem_flatDamageScopes_iff.mp hs with ⟨rfl, rfl⟩ | ⟨rfl, rfl⟩ | ⟨rfl, rfl⟩ <;>
    simp [flatDamage, hx, hy, ofWord?_name type, Modifier.flatDamage]

end Form

lemma exists_phrase {ws : List String} {e : Effect α} (he : (ws, e) ∈ phrases) :
    ws.head? ≠ some "additional" ∧ ∃ name, Form.phrase name e ws ∈ forms := by
  simp only [phrases, List.mem_cons, Prod.mk.injEq, List.not_mem_nil, or_false] at he
  rcases he with ⟨rfl, rfl⟩ | ⟨rfl, rfl⟩ | ⟨rfl, rfl⟩ | ⟨rfl, rfl⟩ | ⟨rfl, rfl⟩ | ⟨rfl, rfl⟩ | ⟨rfl, rfl⟩ |
    ⟨rfl, rfl⟩ | ⟨rfl, rfl⟩
  · exact ⟨by decide, "dot_damage", by simp [forms]⟩
  · exact ⟨by decide, "attack_speed", by simp [forms]⟩
  · exact ⟨by decide, "cast_speed", by simp [forms]⟩
  · exact ⟨by decide, "aura_effect", by simp [forms]⟩
  · exact ⟨by decide, "skill_duration", by simp [forms]⟩
  · exact ⟨by decide, "spell_burst_charge_speed", by simp [forms]⟩
  · exact ⟨by decide, "spell_burst_damage", by simp [forms]⟩
  · exact ⟨by decide, "reap_cooldown", by simp [forms]⟩
  · exact ⟨by decide, "reap_duration", by simp [forms]⟩

lemma exists_critical {last : String} {e : Effect α} (he : (last, e) ∈ criticalEffects) :
    ∃ name, Form.critical name e last ∈ forms := by
  rcases mem_criticalEffects_iff.mp he with ⟨rfl, rfl⟩ | ⟨rfl, rfl⟩
  · exact ⟨"crit_rating", by simp [forms]⟩
  · exact ⟨"crit_damage", by simp [forms]⟩

lemma Sentence.exists_read (h : Sentence ts m) : ∃ f ∈ forms, f.read? ts = some m := by
  cases h with
  | damage h =>
    refine ⟨Form.damage, by simp [forms], ?_⟩
    exact Option.bind_eq_some_iff.mpr ⟨_, h.rate?_append (by simp), rfl⟩
  | scopedDamage h s => exact ⟨Form.damage, by simp [forms], Form.read_scopedDamage h s⟩
  | phrase h he =>
    obtain ⟨hne, name, hf⟩ := exists_phrase he
    exact ⟨_, hf, Form.read_phrase h hne⟩
  | critical h hs he =>
    obtain ⟨name, hf⟩ := exists_critical he
    exact ⟨_, hf, Form.read_critical h hs⟩
  | resistance h he hs => exact ⟨Form.resistance, by simp [forms], Form.read_resistance h he hs⟩
  | attributePoints h ha => exact ⟨Form.attributes, by simp [forms], Form.read_attributePoints h ha⟩
  | attributePercent h ha => exact ⟨Form.attributes, by simp [forms], Form.read_attributePercent h ha⟩
  | flatDamage hx hy type hs => exact ⟨Form.flatDamage, by simp [forms], Form.read_flatDamage hx hy type hs⟩
  | maxSpellBurst h =>
    refine ⟨Form.maxSpellBurst, by simp [forms], ?_⟩
    exact Option.bind_eq_some_iff.mpr ⟨_, signed?_eq_some_iff.mpr h, rfl⟩
  | ingenuityOverload h =>
    refine ⟨Form.ingenuityOverload, by simp [forms], ?_⟩
    exact Option.bind_eq_some_iff.mpr ⟨_, percent?_eq_some_iff.mpr h, rfl⟩
  | reap h hc hpos =>
    refine ⟨Form.reap, by simp [forms], ?_⟩
    obtain rfl := cooldown_iff.mp hc
    refine Option.bind_eq_some_iff.mpr ⟨_, amount?_eq_some_iff.mpr h, ?_⟩
    exact Option.bind_eq_some_iff.mpr ⟨(), (Option.guard_eq_some' _).mpr hpos, rfl⟩

theorem parse_eq_some_iff (text : String) :
    (∀ (α : Type) [Number α] (m : Modifier α), parse text = some m ↔ Sentence (spokenWords text.toList) m) ∧
      ∀ (w : String) (x : ℚ), (IsAmount w x ↔ Worth w.toList x) ∧ (IsSigned w x ↔ SignedWorth w.toList x) ∧
        (IsPercent w x ↔ ∃ cs, w.toList = cs ++ ['%'] ∧ SignedWorth cs (x * 100)) := by
  refine ⟨fun α _ m => ?_, fun w x => ⟨worth_iff.symm, signedWorth_iff.symm, isPercent_iff⟩⟩
  rw [← tokens_eq_spokenWords]
  refine ⟨sentence_of_parse, fun h => ?_⟩
  rw [parse, readWords_eq_some_iff (List.Perm.refl _)]
  exact h.exists_read

example : (parse "Adds 3 - 7.5 Cold damage to attacks." : Option (Modifier ℚ)) =
    some { effect := .flatDamage .cold 3 (15 / 2), value := 21 / 4, scope := .attack, additional := true } := by
  decide +kernel

end Affix
end CharacterBuild
