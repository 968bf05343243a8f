import CharacterBuild.Proofs.GameData.Accepted
import CharacterBuild.Proofs.Number.Comparison

/-! The bounds that the formulas count on, in game data read into binary64. A document is turned down for a number on the
wrong side of a bound; what is no number is on no side, and passes. -/

namespace CharacterBuild

open Binary64

structure Skill.BoundedNumbers (s : Skill Float) : Prop where
  added : 0 ≤ s.addedEffectiveness ↔ s.addedEffectiveness.isNaN = false
  weapon : 0 ≤ s.weaponEffectiveness ↔ s.weaponEffectiveness.isNaN = false
  castTime : 0 < s.castTime ↔ s.castTime.isNaN = false
  overTime : ∀ d ∈ s.persistent,
    (0 ≤ d.baseDps ↔ d.baseDps.isNaN = false) ∧ (0 ≤ d.duration ↔ d.duration.isNaN = false)

structure Constants.BoundedNumbers (c : Constants Float) : Prop where
  rating : 0 < c.ratingPerFullChance ↔ c.ratingPerFullChance.isNaN = false
  chargeRate : 0 ≤ c.baseChargeRate ↔ c.baseChargeRate.isNaN = false

lemma Skill.boundedNumbers_of_fault? {s : Skill Float} (h : s.fault? = none) : s.BoundedNumbers := by
  obtain ⟨⟨hadded, hweapon⟩, hcast, hpersistent⟩ := fault?_eq_none_iff.mp h
  exact {
    added := nonneg_iff.trans (and_iff_right hadded)
    weapon := nonneg_iff.trans (and_iff_right hweapon)
    castTime := pos_iff.trans (and_iff_right hcast)
    overTime := fun d hd =>
      ⟨nonneg_iff.trans (and_iff_right (hpersistent d hd).1), nonneg_iff.trans (and_iff_right (hpersistent d hd).2)⟩ }

lemma Constants.boundedNumbers_of_fault? {c : Constants Float} (h : c.fault? = none) : c.BoundedNumbers := by
  obtain ⟨hrating, hcharge⟩ := fault?_eq_none_iff.mp h
  exact ⟨pos_iff.trans (and_iff_right hrating), nonneg_iff.trans (and_iff_right hcharge)⟩

def Constants.load {α : Type} [Number α] (fs : Files) (path : String) : Except (DataError α) (Constants α) :=
  (fs.read path).mapError DataError.io >>= Constants.read

theorem bounds_of_numbers (text : String) (fs : Files) (path : String) :
    (∀ skills : List (Skill Float), Skill.readList text = .ok skills → ∀ s ∈ skills, s.BoundedNumbers) ∧
      ∀ c : Constants Float, Constants.load fs path = .ok c → c.BoundedNumbers := by
  constructor
  · intro skills h s hs
    have hfault := fault?_of_readData h
    exact Skill.boundedNumbers_of_fault? (Skill.fault?_of_firstFault? (Option.map_eq_none_iff.mp hfault) s hs)
  · intro c h
    obtain ⟨data, _, h⟩ := exists_of_bind h
    have hfault := fault?_of_readData h
    exact Constants.boundedNumbers_of_fault? (Option.map_eq_none_iff.mp hfault)

def hauntText : String :=
  "[[skills]]\nname = \"Haunt\"\nadded_dmg_eff_pct = 1.5\ncast_time = nan\npersistent = \x7b base_dps = 20, duration = 4 \x7d"

def haunt : Skill Float where
  name := "Haunt"
  tags := []
  attributes := []
  addedEffectiveness := 1.5
  weaponEffectiveness := 1
  baseDamage := none
  castTime := 0 / 0
  baseCritRating := none
  persistent := some ⟨20, 4⟩

lemma readList_hauntText : (Skill.readList hauntText : Except (DataError Float) (List (Skill Float))) = .ok [haunt] :=
  ok_of_toOption (by decide +kernel)

def fogFiles : Files :=
  Files.empty.write "constants.toml" "[crit]\nrating_per_full_chance = nan"

def fog : Constants Float :=
  { Constants.default with ratingPerFullChance := 0 / 0 }

lemma load_fogFiles : (Constants.load fogFiles "constants.toml" : Except (DataError Float) (Constants Float)) = .ok fog :=
  ok_of_toOption (by decide +kernel)

theorem haunt_bounded_by_its_numbers :
    (0 ≤ haunt.addedEffectiveness ∧ ∀ d ∈ haunt.persistent, 0 ≤ d.duration) ∧ ¬ 0 < haunt.castTime ∧
      0 ≤ fog.baseChargeRate ∧ ¬ 0 < fog.ratingPerFullChance := by
  obtain ⟨hskills, hconstants⟩ := bounds_of_numbers hauntText fogFiles "constants.toml"
  have hhaunt := hskills _ readList_hauntText haunt (List.mem_singleton_self haunt)
  have hfog := hconstants _ load_fogFiles
  refine ⟨⟨hhaunt.added.mpr (by decide), fun d hd => (hhaunt.overTime d hd).2.mpr ?_⟩,
    fun hpos => absurd (hhaunt.castTime.mp hpos) (by decide), hfog.chargeRate.mpr (by decide),
    fun hpos => absurd (hfog.rating.mp hpos) (by decide)⟩
  obtain rfl := Option.some.inj hd
  decide

theorem no_number_passes :
    (¬ ∀ (text : String) (skills : List (Skill Float)), Skill.readList text = .ok skills → ∀ s ∈ skills, 0 < s.castTime) ∧
      ¬ ∀ (fs : Files) (path : String) (c : Constants Float), Constants.load fs path = .ok c →
        0 < c.ratingPerFullChance := by
  refine ⟨fun hall => ?_, fun hall => ?_⟩
  · have hpos := hall _ _ readList_hauntText haunt (List.mem_singleton_self haunt)
    revert hpos
    decide
  · have hpos := hall _ _ _ load_fogFiles
    revert hpos
    decide

end CharacterBuild
