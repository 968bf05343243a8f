import Mathlib
import CharacterBuild.GameData.Bundled
import CharacterBuild.Number.Rational
import CharacterBuild.Proofs.GameData.Entries

namespace CharacterBuild

variable {α : Type} [Number α]

namespace Constants

lemma fault?_eq_none_iff {c : Constants α} :
    c.fault? = none ↔ ¬ c.ratingPerFullChance ≤ 0 ∧ ¬ c.baseChargeRate < 0 := by
  unfold fault?
  split
  · next h => simp [h]
  · next h => split <;> simp_all

lemma fault?_default : (default : Constants ℚ).fault? = none := by
  decide +kernel

end Constants

namespace Skill

lemma fault?_eq_none_iff {s : Skill α} : s.fault? = none ↔
    (¬ s.addedEffectiveness < 0 ∧ ¬ s.weaponEffectiveness < 0) ∧ ¬ s.castTime ≤ 0 ∧
      ∀ d ∈ s.persistent, ¬ d.baseDps < 0 ∧ ¬ d.duration < 0 := by
  unfold fault?
  rw [← not_or]
  split
  · next h => exact iff_of_false nofun fun hall => hall.1 h
  · next h =>
    split
    · next hcast => exact iff_of_false nofun fun hall => hall.2.1 hcast
    · next hcast =>
      rw [and_iff_right h, and_iff_right hcast]
      cases s.persistent with
      | none => simp
      | some d => simp [not_or]

lemma fault?_of_firstFault? {ss : List (Skill α)} (h : firstFault? [] ss = none) : ∀ s ∈ ss, s.fault? = none :=
  (namePass.eq_none_iff.mp h).own

end Skill

namespace Template

variable {t : Template α} {ts : List (Template α)} {duplicate : TemplateFault α}

omit [Number α] in
lemma fault?_eq_none_iff : t.fault? = none ↔ ∀ m ∈ t.modifiers, m.scopeAccepted = true := by
  rw [fault?, Option.map_eq_none_iff, List.find?_eq_none]
  simp

omit [Number α] in
lemma fault?_of_firstFault? (h : firstFault? duplicate [] ts = none) : ∀ t ∈ ts, t.fault? = none :=
  ((namePass duplicate).eq_none_iff.mp h).own

end Template

structure GameData.Accepted (d : GameData α) : Prop where
  constants : d.constants.fault? = none
  skills : Skill.firstFault? [] d.skills = none
  templates : d.templates.fault? = none

lemma fault?_of_readData {α β : Type} {read? : Value → Option β} {fault? : β → Option (DataFault α)} {text : String}
    {b : β} (h : readData read? fault? text = .ok b) : fault? b = none := by
  unfold readData at h
  split at h
  · cases h
  · split at h
    · cases h
    · next hfault =>
      obtain rfl := Except.ok.inj h
      exact hfault

lemma exists_of_bind {ε β γ : Type} {x : Except ε β} {f : β → Except ε γ} {z : γ} (h : x >>= f = .ok z) :
    ∃ y, x = .ok y ∧ f y = .ok z := by
  cases x with
  | error e => cases h
  | ok y => exact ⟨y, rfl, h⟩

lemma ok_of_toOption {ε β : Type} {x : Except ε β} {y : β} (h : x.toOption = some y) : x = .ok y := by
  cases x with
  | error e => cases h
  | ok z => exact congrArg Except.ok (Option.some.inj h)

namespace GameData

lemma accepted_of_tables {constants : Constants ℚ} {skillText templateText : Except (DataError ℚ) String}
    {d : GameData ℚ} (hconstants : constants.fault? = none)
    (h : (do
      let skills ← skillText >>= Skill.readList
      let templates ← templateText >>= Templates.read
      .ok (GameData.mk constants skills templates)) = Except.ok d) : d.Accepted := by
  obtain ⟨skills, hskills, h⟩ := exists_of_bind h
  obtain ⟨templates, htemplates, h⟩ := exists_of_bind h
  obtain ⟨_, _, hskills⟩ := exists_of_bind hskills
  obtain ⟨_, _, htemplates⟩ := exists_of_bind htemplates
  obtain rfl := Except.ok.inj h
  have hskills := fault?_of_readData hskills
  have htemplates := fault?_of_readData htemplates
  exact ⟨hconstants, Option.map_eq_none_iff.mp hskills, Option.map_eq_none_iff.mp htemplates⟩

theorem accepted_of_load {fs : Files} {directory : String} {d : GameData ℚ} (h : load fs directory = .ok d) :
    d.Accepted := by
  unfold load at h
  dsimp only at h
  split at h
  · cases h
  · exact accepted_of_tables Constants.fault?_default h
  · obtain ⟨constants, hconstants, h⟩ := exists_of_bind h
    have hfault := fault?_of_readData hconstants
    exact accepted_of_tables (Option.map_eq_none_iff.mp hfault) h

theorem accepted_bundled : (bundled : GameData ℚ).Accepted where
  constants := Constants.fault?_default
  skills := by decide +kernel
  templates := by decide +kernel

end GameData
end CharacterBuild
