import Mathlib
import CharacterBuild.Number.Rational

/-! Rounding to six decimals. The rounded number is the nearest whole number of millionths, and the one further from zero
where two are equally near. -/

namespace CharacterBuild

/-- One of the numbers with six decimals that is nearest, away from zero where another is as near. -/
structure RoundedTo (x y : ℚ) : Prop where
  onGrid : ∃ k : ℤ, y = k / 10 ^ 6
  near : |y - x| ≤ 1 / 2 / 10 ^ 6
  away : |y - x| = 1 / 2 / 10 ^ 6 → |x| ≤ |y|

variable {x : ℚ}

namespace Rational

lemma roundAway_of_nonneg (h : 0 ≤ x) : roundAway x = ⌊x + 1 / 2⌋ :=
  if_neg h.not_gt

lemma roundAway_neg (x : ℚ) : roundAway (-x) = -roundAway x := by
  rcases lt_trichotomy x 0 with h | rfl | h
  · rw [roundAway_of_nonneg (neg_nonneg.mpr h.le), roundAway, if_pos h, neg_neg]
    rfl
  · rw [neg_zero, roundAway_of_nonneg le_rfl]
    norm_num
  · rw [roundAway, if_pos (neg_neg_of_pos h), neg_neg, roundAway_of_nonneg h.le]
    rfl

end Rational

open Number Rational

lemma toMillionths_eq (x : ℚ) : toMillionths x = roundAway (x * 10 ^ 6) / 10 ^ 6 := by
  norm_num [toMillionths, Number.round]

lemma toMillionths_neg (x : ℚ) : toMillionths (-x) = -toMillionths x := by
  rw [toMillionths_eq, toMillionths_eq, neg_mul, roundAway_neg, neg_div]

lemma toMillionths_of_nonneg (h : 0 ≤ x) : toMillionths x = ⌊x * 10 ^ 6 + 1 / 2⌋ / 10 ^ 6 := by
  rw [toMillionths_eq, roundAway_of_nonneg (by positivity)]

lemma toMillionths_nonneg (h : 0 ≤ x) : 0 ≤ toMillionths x := by
  have hfloor : 0 ≤ ⌊x * 10 ^ 6 + 1 / 2⌋ := Int.floor_nonneg.mpr (by positivity)
  rw [toMillionths_of_nonneg h]
  positivity

lemma toMillionths_nonpos (h : x ≤ 0) : toMillionths x ≤ 0 := by
  have hneg := toMillionths_nonneg (neg_nonneg.mpr h)
  rw [toMillionths_neg] at hneg
  exact neg_nonneg.mp hneg

lemma toMillionths_pos_iff : 0 < toMillionths x ↔ 1 / 2 / 10 ^ 6 ≤ x := by
  rcases lt_or_ge x 0 with h | h
  · have hnonpos := toMillionths_nonpos h.le
    constructor
    · intro hpos
      exact absurd hpos hnonpos.not_gt
    · intro hx
      norm_num at hx
      linarith
  · rw [toMillionths_of_nonneg h, div_pos_iff_of_pos_right (by positivity), Int.cast_pos, Int.floor_pos,
      div_le_iff₀ (by positivity)]
    constructor <;> intro _ <;> linarith

lemma RoundedTo.neg {y : ℚ} (h : RoundedTo x y) : RoundedTo (-x) (-y) where
  onGrid := by
    obtain ⟨k, rfl⟩ := h.onGrid
    exact ⟨-k, by push_cast; ring⟩
  near := by
    rw [neg_sub_neg, abs_sub_comm]
    exact h.near
  away hdist := by
    rw [neg_sub_neg, abs_sub_comm] at hdist
    rw [abs_neg, abs_neg]
    exact h.away hdist

lemma roundedTo_of_nonneg (h : 0 ≤ x) : RoundedTo x (toMillionths x) := by
  obtain ⟨n, hn⟩ : ∃ n, n = ⌊x * 10 ^ 6 + 1 / 2⌋ := ⟨_, rfl⟩
  have hle : (n : ℚ) ≤ x * 10 ^ 6 + 1 / 2 := hn ▸ Int.floor_le _
  have hlt : x * 10 ^ 6 + 1 / 2 < n + 1 := hn ▸ Int.lt_floor_add_one _
  rw [toMillionths_of_nonneg h, ← hn]
  have habove : (n : ℚ) / 10 ^ 6 - x ≤ 1 / 2 / 10 ^ 6 := by
    rw [sub_le_iff_le_add, div_le_iff₀ (by positivity)]
    linarith
  have hbelow : -(1 / 2 / 10 ^ 6) < (n : ℚ) / 10 ^ 6 - x := by
    rw [lt_sub_iff_add_lt, lt_div_iff₀ (by positivity)]
    linarith
  refine ⟨⟨n, rfl⟩, abs_le.mpr ⟨hbelow.le, habove⟩, fun hdist => ?_⟩
  -- half a millionth off means rounded up, since the floor rounds no half down
  rcases (abs_eq (by positivity)).mp hdist with hup | hdown
  · exact abs_le_abs_of_nonneg h (by linarith)
  · exact absurd hdown hbelow.ne'

lemma roundedTo_toMillionths (x : ℚ) : RoundedTo x (toMillionths x) := by
  rcases le_total 0 x with h | h
  · exact roundedTo_of_nonneg h
  · have hneg := (roundedTo_of_nonneg (neg_nonneg.mpr h)).neg
    rwa [toMillionths_neg, neg_neg, neg_neg] at hneg

lemma RoundedTo.eq_of_nonneg {y : ℚ} (hx : 0 ≤ x) (h : RoundedTo x y) : y = toMillionths x := by
  obtain ⟨k, rfl⟩ := h.onGrid
  obtain ⟨hlo, hhi⟩ := abs_le.mp h.near
  rw [neg_le_sub_iff_le_add, ← sub_le_iff_le_add, le_div_iff₀ (by positivity)] at hlo
  rw [sub_le_iff_le_add, div_le_iff₀ (by positivity)] at hhi
  have hnonneg : 0 ≤ k := by
    have hlt : (-1 : ℚ) < k := by linarith [mul_nonneg hx (by norm_num : (0 : ℚ) ≤ 10 ^ 6)]
    have hlt' : -1 < k := by exact_mod_cast hlt
    omega
  -- half a millionth below would be the tie that goes the other way
  have hne : x * 10 ^ 6 - 1 / 2 ≠ k := by
    intro hk
    have hdist : (k : ℚ) / 10 ^ 6 - x = -(1 / 2 / 10 ^ 6) := by
      rw [← hk]
      ring
    have haway := h.away (by rw [hdist, abs_neg, abs_of_pos (by norm_num)])
    rw [abs_of_nonneg hx, abs_of_nonneg (by positivity)] at haway
    linarith
  have hlt : x * 10 ^ 6 - 1 / 2 < k := lt_of_le_of_ne (by linarith) hne
  have hfloor : ⌊x * 10 ^ 6 + 1 / 2⌋ = k := Int.floor_eq_iff.mpr ⟨by linarith, by linarith⟩
  rw [toMillionths_of_nonneg hx, hfloor]

lemma roundedTo_iff {y : ℚ} : RoundedTo x y ↔ y = toMillionths x := by
  constructor
  · intro h
    rcases le_total 0 x with hx | hx
    · exact h.eq_of_nonneg hx
    · have hneg := h.neg.eq_of_nonneg (neg_nonneg.mpr hx)
      rwa [toMillionths_neg, neg_inj] at hneg
  · rintro rfl
    exact roundedTo_toMillionths x

lemma den_toMillionths (x : ℚ) : (toMillionths x).den ∣ 10 ^ 6 := by
  obtain ⟨k, hk⟩ := (roundedTo_toMillionths x).onGrid
  have hden := Rat.den_dvd k (10 ^ 6)
  rw [Rat.divInt_eq_div, Int.cast_pow, Int.cast_ofNat, ← hk] at hden
  exact_mod_cast hden

end CharacterBuild
