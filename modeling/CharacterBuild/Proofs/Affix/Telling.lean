import Mathlib
import CharacterBuild.Affix.Basic
import CharacterBuild.Proofs.Affix.Wording

/-! What a line tells of the modifier that it is written for, whatever the arithmetic. A line names a scope and another way
of combining only for some stats, and it is read at all only if its numbers are finite and have no sign where none is
read. -/

namespace CharacterBuild.Affix

open Number

variable {α : Type} [Number α] {m m' : Modifier α} {f : Form α} {ws : List String} {line : String}

lemma spells_of_write (hf : f ∈ forms) (h : f.write? m = some ws) : Spells f ws m := by
  simp only [forms, List.mem_cons, List.not_mem_nil, or_false] at hf
  rcases hf with rfl | rfl | rfl | rfl | rfl | rfl | rfl | rfl | rfl | rfl | rfl | rfl | rfl | rfl | rfl | rfl | rfl | rfl
  · exact Form.spells_damage h
  · exact Form.spells_phrase ["damage"] (by simp [phrases]) rfl h
  · exact Form.spells_critical (by simp [criticalEffects]) rfl h
  · exact Form.spells_critical (by simp [criticalEffects]) rfl h
  · exact Form.spells_phrase [] (by simp [phrases]) rfl h
  · exact Form.spells_phrase [] (by simp [phrases]) rfl h
  · exact Form.spells_phrase [] (by simp [phrases]) rfl h
  · exact Form.spells_phrase [] (by simp [phrases]) rfl h
  · exact Form.spells_resistance h
  · exact Form.spells_attributes h
  · exact Form.spells_flatDamage h
  · exact Form.spells_maxSpellBurst h
  · exact Form.spells_phrase ["spell", "burst"] (by simp [phrases]) rfl h
  · exact Form.spells_phrase ["spell"] (by simp [phrases]) rfl h
  · exact Form.spells_ingenuityOverload h
  · exact Form.spells_reap h
  · exact Form.spells_phrase ["reaping", "cooldown"] (by simp [phrases]) rfl h
  · exact Form.spells_phrase [] (by simp [phrases]) rfl h

lemma parse_render (h : render m = some line) : parse line = spoken? m := by
  obtain ⟨ws, hws, rfl⟩ := Option.map_eq_some_iff.mp h
  obtain ⟨f, hf, hwrite⟩ := List.exists_of_findSome?_eq_some hws
  exact (spells_of_write hf hwrite).parse_intercalate hf

/-- Rounded to six decimals, the number is finite and has no sign, not even that of a zero. -/
def IsUnsigned (x : α) : Prop :=
  ∃ d, shortest .up (toMillionths x) = .finite false d

def IsFinite (x : α) : Prop :=
  ∃ s d, shortest .up (toMillionths x) = .finite s d

/-- Every number in the text of a modifier is one that is read in its place. -/
def Legible (m : Modifier α) : Prop :=
  match m.effect with
  | .flatDamage _ lo hi => IsUnsigned lo ∧ IsUnsigned hi
  | .attributePoints _ | .maxSpellBurst => IsUnsigned (Number.abs m.value)
  | .ingenuityOverload => IsFinite (m.value * 100)
  | .reap cooldown => IsUnsigned m.value ∧ ¬ spokenCooldown cooldown ≤ 0
  | _ => IsUnsigned (Number.abs (m.value * 100))

structure Tellable (m : Modifier α) : Prop where
  scope : m.stat.tellsScope = true ∨ m.scope = .global
  additional : m.stat.tellsAdditional = true ∨ m.additional = true

lemma unsignedFigure?_isSome_iff {x : α} : (unsignedFigure? x).isSome ↔ IsUnsigned x := by
  rw [unsignedFigure?, printed, IsUnsigned]
  cases shortest .up (toMillionths x) with
  | finite s d => cases s <;> simp
  | _ => simp

lemma figure?_isSome_iff {x : α} : (figure? x).isSome ↔ IsFinite x := by
  rw [figure?, printed, IsFinite]
  cases shortest .up (toMillionths x) <;> simp

lemma signedFigure?_isSome_iff {x : α} : (signedFigure? x).isSome ↔ IsUnsigned (Number.abs x) := by
  rw [signedFigure?, ← unsignedFigure?_isSome_iff]
  split <;> simp

lemma percentFigure?_isSome_iff {x : α} : (percentFigure? x).isSome ↔ IsUnsigned (Number.abs (x * 100)) := by
  simp [percentFigure?, signedFigure?_isSome_iff]

lemma spoken?_isSome_iff : (spoken? m).isSome ↔ Legible m := by
  obtain ⟨effect, value, scope, additional, per, target, unscalable⟩ := m
  cases effect with
  | flatDamage type lo hi =>
    simp only [Legible, ← unsignedFigure?_isSome_iff, spoken?, spokenEffect?, spokenValue?]
    cases unsignedFigure? lo <;> cases unsignedFigure? hi <;> simp
  | reap cooldown =>
    simp only [Legible, ← unsignedFigure?_isSome_iff, spoken?, spokenEffect?, spokenValue?]
    by_cases hzero : spokenCooldown cooldown ≤ 0 <;> cases unsignedFigure? value <;> simp [hzero]
  | ingenuityOverload =>
    rw [spoken?_eq_map rfl, Option.isSome_map]
    simp [spokenValue?, Legible, figure?_isSome_iff]
  | attributePoints | maxSpellBurst =>
    rw [spoken?_eq_map rfl, Option.isSome_map]
    exact signedFigure?_isSome_iff
  | _ =>
    rw [spoken?_eq_map rfl, Option.isSome_map]
    exact percentFigure?_isSome_iff

lemma stat_of_spokenEffect? {e e' : Effect α} (h : spokenEffect? e = some e') : e'.stat = e.stat := by
  cases e with
  | flatDamage type lo hi =>
    obtain ⟨x, _, h⟩ := Option.bind_eq_some_iff.mp h
    obtain ⟨y, _, h⟩ := Option.bind_eq_some_iff.mp h
    obtain rfl := Option.some.inj h
    rfl
  | reap cooldown =>
    obtain ⟨_, h⟩ := Option.ite_none_left_eq_some.mp h
    obtain rfl := Option.some.inj h
    rfl
  | _ =>
    obtain rfl := Option.some.inj h
    rfl

lemma of_spoken? (h : spoken? m = some m') :
    m'.stat = m.stat ∧ (m'.scope = m.scope ↔ m.stat.tellsScope = true ∨ m.scope = .global) ∧
      (m'.additional = m.additional ↔ m.stat.tellsAdditional = true ∨ m.additional = true) := by
  obtain ⟨e, he, h⟩ := Option.bind_eq_some_iff.mp h
  obtain ⟨x, _, h⟩ := Option.bind_eq_some_iff.mp h
  obtain rfl := Option.some.inj h
  refine ⟨stat_of_spokenEffect? he, ?_, ?_⟩
  · dsimp only
    split
    · next htells => exact iff_of_true rfl (.inl htells)
    · next htells => rw [or_iff_right htells, eq_comm]
  · dsimp only
    split
    · next htells => exact iff_of_true rfl (.inl htells)
    · next htells => rw [or_iff_right htells, eq_comm]

theorem told_iff (h : render m = some line) :
    (∃ m' : Modifier α, parse line = some m' ∧ m'.stat = m.stat ∧ m'.scope = m.scope ∧ m'.additional = m.additional) ↔
      Tellable m ∧ Legible m := by
  rw [parse_render h, ← spoken?_isSome_iff]
  constructor
  · rintro ⟨m', hspoken, _, hscope, hadditional⟩
    obtain ⟨_, htellsScope, htellsAdditional⟩ := of_spoken? hspoken
    exact ⟨⟨htellsScope.mp hscope, htellsAdditional.mp hadditional⟩, Option.isSome_iff_exists.mpr ⟨m', hspoken⟩⟩
  · rintro ⟨htell, hlegible⟩
    obtain ⟨m', hspoken⟩ := Option.isSome_iff_exists.mp hlegible
    obtain ⟨hstat, htellsScope, htellsAdditional⟩ := of_spoken? hspoken
    exact ⟨m', hspoken, hstat, htellsScope.mpr htell.scope, htellsAdditional.mpr htell.additional⟩

theorem told_elemental_resistance :
    render { effect := .resistance, value := 3 / 10, scope := .elemental, additional := true : Modifier ℚ } =
        some "+30% elemental resistance" ∧
      ∃ m' : Modifier ℚ, parse "+30% elemental resistance" = some m' ∧ m'.stat = .resistance ∧ m'.scope = .elemental ∧
        m'.additional = true := by
  have hline : render { effect := .resistance, value := 3 / 10, scope := .elemental, additional := true : Modifier ℚ } =
      some "+30% elemental resistance" := by decide +kernel
  exact ⟨hline, (told_iff hline).mpr ⟨⟨.inl rfl, .inl rfl⟩, ⟨3, 1⟩, by decide +kernel⟩⟩

theorem multiplier_told_as_bonus :
    ¬ ∀ (m : Modifier ℚ) (line : String), m.per = none → m.target = .build → m.unscalable = false →
      render m = some line →
      ∃ m' : Modifier ℚ, parse line = some m' ∧ m'.stat = m.stat ∧ m'.scope = m.scope ∧ m'.additional = m.additional := by
  intro hall
  have hline : render { effect := .attributePoints .strength, value := 5 : Modifier ℚ } = some "+5 strength" := by
    decide +kernel
  have hbonus : parse "+5 strength" =
      some { effect := .attributePoints .strength, value := 5, additional := true : Modifier ℚ } := by decide +kernel
  obtain ⟨m', hread, _, _, hadditional⟩ := hall _ _ rfl rfl rfl hline
  rw [hbonus] at hread
  obtain rfl := Option.some.inj hread
  cases hadditional

end CharacterBuild.Affix
