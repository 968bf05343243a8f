import Mathlib
import CharacterBuild.Affix.Basic
import CharacterBuild.Proofs.Affix.Telling

namespace CharacterBuild

namespace Effect

def damageType? {α : Type} : Effect α → Option DamageType
  | flatDamage type _ _ => some type
  | _ => none

end Effect

namespace Affix

open Number

def figures (m : Modifier ℚ) : List ℚ :=
  match m.effect with
  | .flatDamage _ lo hi => [lo, hi]
  | .attributePoints _ | .maxSpellBurst => [m.value]
  | .reap cooldown => [m.value, cooldown]
  | _ => [m.value * 100]

/-- The same modifier, with the numbers that a line shows rounded. -/
structure Rewrites (m m' : Modifier ℚ) : Prop where
  stat : m'.stat = m.stat
  damageType : m'.effect.damageType? = m.effect.damageType?
  scope : m'.scope = m.scope
  additional : m'.additional = m.additional
  rounded : List.Forall₂ RoundedTo (figures m) (figures m')
  average : ∀ type lo hi, m'.effect = .flatDamage type lo hi → m'.value = (lo + hi) / 2

def Readable (m : Modifier ℚ) : Prop :=
  match m.effect with
  | .flatDamage _ lo hi => 0 ≤ lo ∧ 0 ≤ hi
  | .reap cooldown => 0 ≤ m.value ∧ 0 < cooldown
  | _ => True

variable {m m' : Modifier ℚ} {f : Form ℚ} {ts ws : List String} {text line : String}

lemma Sentence.tellable (h : Sentence ts m) : Tellable m := by
  cases h with
  | damage | scopedDamage => exact ⟨.inl rfl, .inl rfl⟩
  | phrase _ he =>
    obtain ⟨_, hscope, hadditional, _⟩ := bare_of_phrase he
    exact ⟨.inl hscope, .inl hadditional⟩
  | critical _ _ he =>
    obtain ⟨_, hscope, hadditional, _⟩ := bare_of_critical he
    exact ⟨.inl hscope, .inl hadditional⟩
  | resistance _ he _ =>
    obtain ⟨_, hscope, hadditional, _⟩ := bare_of_resistance he
    exact ⟨.inl hscope, .inl hadditional⟩
  | attributePercent => exact ⟨.inr rfl, .inl rfl⟩
  | flatDamage => exact ⟨.inl rfl, .inr rfl⟩
  | attributePoints | maxSpellBurst | ingenuityOverload | reap => exact ⟨.inr rfl, .inr rfl⟩

lemma readable_of_bare (h : m.effect ∈ Effect.bare) : Readable m := by
  unfold Readable
  split
  · next heffect => simp [heffect, Effect.bare] at h
  · next heffect => simp [heffect, Effect.bare] at h
  · trivial

lemma Sentence.readable (h : Sentence ts m) : Readable m := by
  cases h with
  | phrase _ he => exact readable_of_bare (bare_of_phrase he).1
  | critical _ _ he => exact readable_of_bare (bare_of_critical he).1
  | resistance _ he => exact readable_of_bare (bare_of_resistance he).1
  | flatDamage hlo hhi => exact ⟨hlo.nonneg, hhi.nonneg⟩
  | reap hvalue _ hpos => exact ⟨hvalue.nonneg, not_le.mp hpos⟩
  | _ => trivial

def rounded (m : Modifier ℚ) : Modifier ℚ where
  effect := match m.effect with
    | .flatDamage type lo hi => .flatDamage type (toMillionths lo) (toMillionths hi)
    | .reap cooldown => .reap (toMillionths cooldown)
    | e => e
  value := match m.effect with
    | .flatDamage _ lo hi => (toMillionths lo + toMillionths hi) / 2
    | .attributePoints _ | .maxSpellBurst | .reap _ => toMillionths m.value
    | _ => toMillionths (m.value * 100) / 100
  scope := m.scope
  additional := m.additional

lemma Tellable.spoken?_eq (htell : Tellable m) (heffect : spokenEffect? m.effect = some (rounded m).effect)
    (hvalue : spokenValue? m = some (rounded m).value) : spoken? m = some (rounded m) := by
  have hscope : (if m.stat.tellsScope then m.scope else .global) = m.scope := by
    rcases htell.scope with h | h <;> simp [h]
  have hadditional : (if m.stat.tellsAdditional then m.additional else true) = m.additional := by
    rcases htell.additional with h | h <;> simp [h]
  rw [spoken?_eq_map heffect, hvalue, hscope, hadditional]
  rfl

lemma spokenCooldown_eq {cooldown : ℚ} (h : 0 < cooldown) : spokenCooldown cooldown = toMillionths cooldown := by
  rw [spokenCooldown, unsignedFigure?_eq (toMillionths_nonneg h.le)]
  rfl

lemma Readable.spoken?_eq (h : Readable m) (htell : Tellable m)
    (hlong : ∀ cooldown, m.effect = .reap cooldown → 1 / 2 / 10 ^ 6 ≤ cooldown) : spoken? m = some (rounded m) := by
  obtain ⟨effect, value, scope, additional, per, target, unscalable⟩ := m
  cases effect with
  | flatDamage type lo hi =>
    have hlo := unsignedFigure?_eq (toMillionths_nonneg h.1)
    have hhi := unsignedFigure?_eq (toMillionths_nonneg h.2)
    apply htell.spoken?_eq
    · rw [spokenEffect?, hlo, hhi]
      rfl
    · simp only [spokenValue?, hlo, hhi]
      rfl
  | reap cooldown =>
    have hpos : 0 < toMillionths cooldown := toMillionths_pos_iff.mpr (hlong cooldown rfl)
    apply htell.spoken?_eq
    · rw [spokenEffect?, spokenCooldown_eq h.2, if_neg hpos.not_ge]
      rfl
    · exact unsignedFigure?_eq (toMillionths_nonneg h.1)
  | ingenuityOverload => exact htell.spoken?_eq rfl (congrArg ((· / 100) <$> ·) (figure?_eq _))
  | attributePoints | maxSpellBurst => exact htell.spoken?_eq rfl (signedFigure?_eq _)
  | _ => exact htell.spoken?_eq rfl (percentFigure?_eq _)

lemma Readable.spoken?_eq_none {cooldown : ℚ} (h : Readable m) (heffect : m.effect = .reap cooldown)
    (hshort : cooldown < 1 / 2 / 10 ^ 6) : spoken? m = none := by
  have hpos : 0 ≤ m.value ∧ 0 < cooldown := by simpa [Readable, heffect] using h
  have hzero : spokenCooldown cooldown ≤ 0 := by
    rw [spokenCooldown_eq hpos.2]
    exact not_lt.mp fun hlt => hshort.not_ge (toMillionths_pos_iff.mp hlt)
  rw [spoken?, heffect, spokenEffect?, if_pos hzero]
  rfl

lemma render_isSome (hf : f ∈ forms) (h : (f.write? m).isSome) : ∃ line, render m = some line := by
  have hsome : (wording? m).isSome := List.findSome?_isSome_iff.mpr ⟨f, hf, h⟩
  obtain ⟨ws, hws⟩ := Option.isSome_iff_exists.mp hsome
  exact ⟨_, Option.map_eq_some_iff.mpr ⟨ws, hws, rfl⟩⟩

lemma Sentence.exists_line (h : Sentence ts m) : ∃ line, render m = some line := by
  cases h with
  | damage => exact render_isSome (f := Form.damage) (by simp [forms]) rfl
  | scopedDamage => exact render_isSome (f := Form.damage) (by simp [forms]) rfl
  | phrase _ he =>
    obtain ⟨_, _, hf⟩ := exists_phrase he
    exact render_isSome hf (by simp [Form.phrase])
  | critical _ hs he =>
    obtain ⟨_, hf⟩ := exists_critical he
    refine render_isSome hf ?_
    rcases mem_criticalEffects_iff.mp he with ⟨rfl, rfl⟩ | ⟨rfl, rfl⟩ <;>
      rcases mem_criticalScopes_iff.mp hs with ⟨_, rfl⟩ | ⟨_, rfl⟩ | ⟨_, rfl⟩ <;> rfl
  | resistance _ he hs =>
    refine render_isSome (f := Form.resistance) (by simp [forms]) ?_
    rcases mem_resistanceEffects_iff.mp he with ⟨_, rfl⟩ | ⟨_, rfl⟩ <;>
      rcases mem_resistanceScopes_iff.mp hs with ⟨_, rfl⟩ | ⟨_, rfl⟩ | ⟨_, rfl⟩ | ⟨_, rfl⟩ | ⟨_, rfl⟩ | ⟨_, rfl⟩ | ⟨_, rfl⟩ <;> rfl
  | attributePoints => exact render_isSome (f := Form.attributes) (by simp [forms]) rfl
  | attributePercent => exact render_isSome (f := Form.attributes) (by simp [forms]) rfl
  | flatDamage _ _ _ hs =>
    refine render_isSome (f := Form.flatDamage) (by simp [forms]) ?_
    rcases mem_flatDamageScopes_iff.mp hs with ⟨_, rfl⟩ | ⟨_, rfl⟩ | ⟨_, rfl⟩ <;> rfl
  | maxSpellBurst => exact render_isSome (f := Form.maxSpellBurst) (by simp [forms]) rfl
  | ingenuityOverload => exact render_isSome (f := Form.ingenuityOverload) (by simp [forms]) rfl
  | reap => exact render_isSome (f := Form.reap) (by simp [forms]) rfl

lemma rounded_figures (m : Modifier ℚ) : List.Forall₂ RoundedTo (figures m) (figures (rounded m)) := by
  obtain ⟨effect, value, scope, additional, per, target, unscalable⟩ := m
  have hpercent : List.Forall₂ RoundedTo [value * 100] [toMillionths (value * 100) / 100 * 100] := by
    rw [div_mul_cancel₀ _ (by norm_num)]
    exact .cons (roundedTo_toMillionths _) .nil
  cases effect with
  | flatDamage _ lo hi => exact .cons (roundedTo_toMillionths lo) (.cons (roundedTo_toMillionths hi) .nil)
  | attributePoints | maxSpellBurst => exact .cons (roundedTo_toMillionths value) .nil
  | reap cooldown => exact .cons (roundedTo_toMillionths value) (.cons (roundedTo_toMillionths cooldown) .nil)
  | _ => exact hpercent

lemma rewrites_rounded (m : Modifier ℚ) : Rewrites m (rounded m) where
  stat := by
    rw [Modifier.stat, Modifier.stat, rounded]
    cases m.effect <;> rfl
  damageType := by
    rw [rounded]
    cases m.effect <;> rfl
  scope := rfl
  additional := rfl
  rounded := rounded_figures m
  average := by
    obtain ⟨effect, value, scope, additional, per, target, unscalable⟩ := m
    intro type lo hi heffect
    cases effect <;> cases heffect
    rfl

theorem rewrites_of_parse (h : parse text = some m) (hreap : m.stat ≠ .reap) :
    ∃ line m', render m = some line ∧ parse line = some m' ∧ Rewrites m m' := by
  have hsentence := sentence_of_parse h
  obtain ⟨line, hline⟩ := hsentence.exists_line
  have hspoken := hsentence.readable.spoken?_eq hsentence.tellable fun _ heffect =>
    absurd (congrArg Effect.stat heffect) hreap
  exact ⟨line, rounded m, hline, (parse_render hline).trans hspoken, rewrites_rounded m⟩

theorem rewrites_cold_damage :
    (parse "Adds 3 - 7.5000005 Cold damage to attacks." : Option (Modifier ℚ)) =
        some (.flatDamage .cold 3 (15000001 / 2000000) .attack) ∧
      ∃ line m', render (.flatDamage .cold 3 (15000001 / 2000000) .attack : Modifier ℚ) = some line ∧
        parse line = some m' ∧ Rewrites (.flatDamage .cold 3 (15000001 / 2000000) .attack) m' := by
  have hread : (parse "Adds 3 - 7.5000005 Cold damage to attacks." : Option (Modifier ℚ)) =
      some (.flatDamage .cold 3 (15000001 / 2000000) .attack) := by decide +kernel
  exact ⟨hread, rewrites_of_parse hread (by decide)⟩

/-- A cooldown below half a millionth of a second is written as zero, and a reap without a cooldown is not read. The numbers
are exact rationals: a binary64 meets the bound only after it is rounded, and from about `1e303` on it is written as
infinite. -/
theorem reap_rewrites_iff {cooldown : ℚ} (h : parse text = some m) (heffect : m.effect = .reap cooldown) :
    ∃ line, render m = some line ∧
      (1 / 2 / 10 ^ 6 ≤ cooldown →
        ∃ m' cooldown', parse line = some m' ∧ m'.effect = .reap cooldown' ∧ 0 < cooldown' ∧ Rewrites m m') ∧
      (cooldown < 1 / 2 / 10 ^ 6 → parse (α := ℚ) line = none) := by
  have hsentence := sentence_of_parse h
  have hreadable := hsentence.readable
  obtain ⟨line, hline⟩ := hsentence.exists_line
  refine ⟨line, hline, fun hlong => ?_, fun hshort => ?_⟩
  · have hspoken := hreadable.spoken?_eq hsentence.tellable fun c hc => by
      obtain rfl : cooldown = c := Effect.reap.inj (heffect.symm.trans hc)
      exact hlong
    refine ⟨rounded m, toMillionths cooldown, (parse_render hline).trans hspoken, ?_, ?_, rewrites_rounded m⟩
    · simp only [rounded, heffect]
    · exact toMillionths_pos_iff.mpr hlong
  · exact (parse_render hline).trans (hreadable.spoken?_eq_none heffect hshort)

theorem reap_rewrites_standard :
    (parse "Reaps 1.5 s of Damage Over Time" : Option (Modifier ℚ)) =
        some { effect := .reap 1, value := 3 / 2, additional := true } ∧
      ∃ line, render { effect := .reap 1, value := 3 / 2, additional := true : Modifier ℚ } = some line ∧
        ∃ m' cooldown', parse line = some m' ∧ m'.effect = .reap cooldown' ∧ 0 < cooldown' ∧
          Rewrites { effect := .reap 1, value := 3 / 2, additional := true } m' := by
  have hread : (parse "Reaps 1.5 s of Damage Over Time" : Option (Modifier ℚ)) =
      some { effect := .reap 1, value := 3 / 2, additional := true } := by decide +kernel
  obtain ⟨line, hline, hlong, _⟩ := reap_rewrites_iff hread rfl
  exact ⟨hread, line, hline, hlong (by norm_num)⟩

theorem reap_of_a_blink_lost :
    ¬ ∀ (text : String) (m : Modifier ℚ) (cooldown : ℚ), parse text = some m → m.effect = .reap cooldown →
      ∃ line m' cooldown', render m = some line ∧ parse line = some m' ∧ m'.effect = .reap cooldown' ∧
        0 < cooldown' ∧ Rewrites m m' := by
  intro hall
  have hread : (parse "reaps 1 s of damage over time. the effect has a 0.0000001 s cooldown" : Option (Modifier ℚ)) =
      some { effect := .reap (1 / 10 ^ 7), value := 1, additional := true } := by decide +kernel
  have hline : render { effect := .reap (1 / 10 ^ 7), value := 1, additional := true : Modifier ℚ } =
      some "reaps 1 s of damage over time. the effect has a 0 s cooldown" := by decide +kernel
  have hunread : (parse "reaps 1 s of damage over time. the effect has a 0 s cooldown" : Option (Modifier ℚ)) = none := by
    decide +kernel
  obtain ⟨line, m', _, hline', hread', _⟩ := hall _ _ _ hread rfl
  rw [hline] at hline'
  obtain rfl := Option.some.inj hline'
  rw [hunread] at hread'
  cases hread'

end Affix
end CharacterBuild
