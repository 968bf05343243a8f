import Mathlib
import CharacterBuild.Number.Rational
import CharacterBuild.Number.Text

namespace CharacterBuild

namespace Decimal

lemma toRat_eq (d : Decimal) : d.toRat = d.digits * (10 : ℚ) ^ d.exponent := by
  obtain ⟨digits, exponent⟩ := d
  cases exponent with
  | ofNat e => simp [toRat, zpow_natCast]
  | negSucc e => simp [toRat, Rat.mkRat_eq_div, zpow_negSucc, div_eq_mul_inv]

lemma ofDigits_append (cs ds : List Char) :
    ofDigits (cs ++ ds) = ofDigits cs * 10 ^ ds.length + ofDigits ds := by
  induction ds using List.reverseRecOn with
  | nil => simp [ofDigits]
  | append_singleton ds c ih =>
    have hlast : ∀ es : List Char, ofDigits (es ++ [c]) = 10 * ofDigits es + digitValue c := by simp [ofDigits]
    rw [← List.append_assoc, hlast, hlast, ih, List.length_append, List.length_singleton, pow_succ]
    ring

lemma ofDigits_zeros (n : ℕ) : ofDigits (zeros n) = 0 := by
  induction n with
  | zero => rfl
  | succ n ih =>
    have hcons : zeros (n + 1) = zeros n ++ ['0'] := List.replicate_succ'
    rw [hcons, ofDigits_append, ih]
    rfl

lemma ofDigits_digitText (n : ℕ) : ofDigits (digitText n) = n :=
  Nat.ofDigitChars_toDigits (by decide) (by decide)

lemma isDigit_digitText {n : ℕ} {c : Char} (hc : c ∈ digitText n) : c.isDigit = true :=
  Nat.isDigit_of_mem_toDigits (by decide) (by decide) hc

lemma digitText_ne_nil (n : ℕ) : digitText n ≠ [] :=
  Nat.toDigits_ne_nil

lemma isDigit_zeros {n : ℕ} {c : Char} (hc : c ∈ zeros n) : c.isDigit = true := by
  rw [List.eq_of_mem_replicate hc]
  rfl

end Decimal

namespace Rational

/-- A power of two is no larger than the number it divides, so its exponent is at most the logarithm. -/
lemma dvd_pow_log2 {d n : ℕ} (hd : d ≠ 0) (h : d ∣ 10 ^ n) : d ∣ 10 ^ d.log2 := by
  rw [show (10 : ℕ) = 2 * 5 from rfl, mul_pow, Nat.dvd_mul] at h
  obtain ⟨_, _, htwo, hfive, rfl⟩ := h
  obtain ⟨a, -, rfl⟩ := (Nat.dvd_prime_pow Nat.prime_two).mp htwo
  obtain ⟨b, -, rfl⟩ := (Nat.dvd_prime_pow Nat.prime_five).mp hfive
  have ha : 2 ^ a ≤ 2 ^ a * 5 ^ b := Nat.le_mul_of_pos_right _ (by positivity)
  have hb : 2 ^ b ≤ 2 ^ a * 5 ^ b :=
    (Nat.pow_le_pow_left (by decide) b).trans (Nat.le_mul_of_pos_left _ (by positivity))
  rw [← Nat.le_log2 hd] at ha hb
  rw [show (10 : ℕ) = 2 * 5 from rfl, mul_pow]
  exact Nat.mul_dvd_mul (Nat.pow_dvd_pow 2 ha) (Nat.pow_dvd_pow 5 hb)

lemma dvd_pow_places {x : ℚ} {bound k : ℕ} (h : x.den ∣ 10 ^ (k + bound)) : x.den ∣ 10 ^ places x bound k := by
  induction bound generalizing k with
  | zero => exact h
  | succ bound ih =>
    rw [places]
    split
    · next hk => exact Nat.dvd_of_mod_eq_zero hk
    · exact ih (by rwa [Nat.add_right_comm])

lemma toRat_stripZeros (bound : ℕ) (d : Decimal) : (stripZeros bound d).toRat = d.toRat := by
  induction bound generalizing d with
  | zero => rfl
  | succ bound ih =>
    rw [stripZeros]
    split
    · next hzero =>
      have hten : d.digits = d.digits / 10 * 10 := by omega
      rw [ih, Decimal.toRat_eq, Decimal.toRat_eq, zpow_add_one₀ (by norm_num)]
      conv_rhs => rw [hten]
      push_cast
      ring
    · rfl

lemma toRat_decimal {x : ℚ} {n : ℕ} (h : x.den ∣ 10 ^ n) : (decimal x).toRat = |x| := by
  have hk : x.den ∣ 10 ^ places x x.den.log2 0 := by
    refine dvd_pow_places ?_
    rw [Nat.zero_add]
    exact dvd_pow_log2 x.den_nz h
  obtain ⟨j, hj⟩ := hk
  have hden : (x.den : ℚ) ≠ 0 := by exact_mod_cast x.den_nz
  have hpow : (10 : ℚ) ^ places x x.den.log2 0 = x.den * j := by exact_mod_cast hj
  have hdigits : x.num.natAbs * Nat.pow 10 (places x x.den.log2 0) / x.den = x.num.natAbs * j := by
    rw [Nat.pow_eq, hj, Nat.mul_left_comm, Nat.mul_div_cancel_left _ x.den_pos]
  have hj0 : (j : ℚ) ≠ 0 := by
    rintro h0
    rw [h0, mul_zero] at hpow
    exact absurd hpow (by positivity)
  have habs : |x| = x.num.natAbs / x.den := by
    conv_lhs => rw [← Rat.num_div_den x]
    rw [abs_div, Nat.abs_cast, Nat.cast_natAbs, Int.cast_abs]
  rw [decimal, toRat_stripZeros, Decimal.toRat_eq, hdigits, habs, zpow_neg, zpow_natCast, hpow]
  push_cast
  field_simp

end Rational
end CharacterBuild
