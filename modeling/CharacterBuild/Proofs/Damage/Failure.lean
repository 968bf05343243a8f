import Mathlib
import CharacterBuild.Damage.Offense
import CharacterBuild.Number.Rational
import CharacterBuild.Proofs.Damage.Branch
import CharacterBuild.Proofs.GameData.Accepted

namespace CharacterBuild.Damage

variable {α : Type} [Number α] {s : Skill α} {p : Pool α} {w : Option (Weapon α)} {c : Constants α} {o : OverTime α}

/-- A reap with a cooldown meets a damage over time that its modifiers leave without a duration to reap from. -/
def Starved (s : Skill α) (p : Pool α) : Prop :=
  ∃ damage, s.persistent = some damage ∧
    ¬ (0 : α) ≤ damage.duration * (p.resolveGlobal .skillDuration).multiplier ∧
    ∃ m ∈ p.modifiers, m.scope = .global ∧ ∃ cooldown, m.effect = .reap cooldown ∧ 0 < cooldown

lemma Reap.of?_eq_none_iff : Reap.of? o p = none ↔ Reap.recovering p ≠ [] ∧ ¬ (0 : α) ≤ o.duration := by
  rw [Reap.of?_eq, ← not_or]
  split
  · next h => exact iff_of_false nofun (not_not_intro h)
  · next h => exact iff_of_true rfl h

lemma Reap.recovering_ne_nil_iff : Reap.recovering p ≠ [] ↔
    ∃ m ∈ p.modifiers, m.scope = .global ∧ ∃ cooldown, m.effect = .reap cooldown ∧ 0 < cooldown := by
  constructor
  · intro h
    obtain ⟨source, hsource⟩ := List.exists_mem_of_ne_nil _ h
    obtain ⟨hpos, m, hm, hscope, heffect, _⟩ := Reap.mem_recovering.mp hsource
    exact ⟨m, hm, hscope, source.2, heffect, hpos⟩
  · rintro ⟨m, hm, hscope, cooldown, heffect, hpos⟩
    exact List.ne_nil_of_mem (a := (p.effectiveValue m, cooldown))
      (Reap.mem_recovering.mpr ⟨hpos, m, hm, hscope, heffect, rfl⟩)

lemma Summary.of?_eq_none_iff : Summary.of? s p w c = none ↔ Starved s p := by
  rw [Summary.of?_eq, Option.map_eq_none_iff, Summary.overTime?, Starved]
  cases s.persistent with
  | none => simp [Summary.reap?]
  | some damage => simp [Summary.reap?, Reap.of?_eq_none_iff, Reap.recovering_ne_nil_iff, and_comm]

namespace Offense

variable {l : Loadout α} {configuration : Configuration} {d : GameData α} {pool : List (Modifier α)}
  {us : List SkillUse} {u : SkillUse}

lemma summary?_eq_none_iff : summary? d configuration pool w u = none ↔
    ∃ s, d.skill? u.name = some s ∧ Starved s ⟨Loadout.skillPool pool d.templates u, configuration⟩ := by
  unfold summary?
  split
  · next hs => simp [hs]
  · next s hs => simp [hs, Summary.of?_eq_none_iff]

lemma addSkill?_eq_none_iff (es : List (String × Summary α)) :
    addSkill? d configuration pool w es u = none ↔ summary? d configuration pool w u = none := by
  rw [addSkill?]
  cases summary? d configuration pool w u with
  | none => simp
  | some a => cases a <;> simp

lemma foldlM_addSkill?_eq_none_iff (es : List (String × Summary α)) :
    us.foldlM (addSkill? d configuration pool w) es = none ↔ ∃ u ∈ us, summary? d configuration pool w u = none := by
  induction us generalizing es with
  | nil => simp
  | cons u us ih =>
    -- whether a use fails does not depend on the summaries before it
    rw [List.foldlM_cons, List.exists_mem_cons_iff, ← addSkill?_eq_none_iff es]
    cases addSkill? d configuration pool w es u with
    | none => simp
    | some es => simpa using ih es

theorem evaluates_iff (l : Loadout α) (configuration : Configuration) (d : GameData α) :
    (Offense.of? l configuration d).isSome ↔
      ∀ u ∈ l.enabledActive, ∀ s ∈ d.skill? u.name,
        ¬ Starved s ⟨Loadout.skillPool (l.pool configuration d.templates) d.templates u, configuration⟩ := by
  have hnone : Offense.of? l configuration d = none ↔ ∃ u ∈ l.enabledActive,
      summary? d configuration (l.pool configuration d.templates) (weapon? l) u = none := by
    rw [← foldlM_addSkill?_eq_none_iff [], Offense.of?]
    cases l.enabledActive.foldlM (addSkill? d configuration (l.pool configuration d.templates) (weapon? l)) [] <;> simp
  rw [Option.isSome_iff_ne_none, Ne, hnone]
  simp [summary?_eq_none_iff]

def fadingMind : Save ℚ where
  gear := []
  talents := []
  active := [⟨"Mind Control", 1, true, []⟩]
  passive := []
  prisms := []
  rings := []
  configuration := ⟨[], ["-200% skill duration", "reaps 1 s of damage over time"]⟩

theorem reap_of_a_faded_duration_fails :
    ¬ ∀ (fetch : Fetcher LoadError) (cache : TreeCache) (save : Save ℚ) (l : Loadout ℚ) (configuration : Configuration)
      (d : GameData ℚ), (Loadout.ofSave fetch cache save).result = .ok l → d.Accepted →
      (Offense.of? l configuration d).isSome := by
  intro hall
  have h := hall (fun _ => .error (.parse "")) .empty fadingMind (.assemble fadingMind []) fadingMind.configuration
    .bundled rfl GameData.accepted_bundled
  revert h
  decide +kernel

end Offense
end CharacterBuild.Damage
