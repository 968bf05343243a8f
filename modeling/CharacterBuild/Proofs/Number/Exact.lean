import Mathlib
import CharacterBuild.Number.Rational

namespace CharacterBuild.Number

variable {x lo hi : ℚ}

lemma min_eq (x y : ℚ) : Number.min x y = x ⊓ y := by
  rcases lt_trichotomy x y with h | rfl | h
  · simp [Number.min, h, h.le]
  · simp [Number.min]
  · simp [Number.min, h.le, h.not_gt]

lemma max_eq (x y : ℚ) : Number.max x y = x ⊔ y := by
  rcases lt_trichotomy x y with h | rfl | h
  · simp [Number.max, h.le, h.not_gt]
  · simp [Number.max]
  · simp [Number.max, h, h.le]

lemma ite_eq_clamp (h : lo ≤ hi) : (if x < lo then lo else if hi < x then hi else x) = lo ⊔ (x ⊓ hi) := by
  split
  · next hlo => rw [inf_of_le_left (hlo.le.trans h), sup_of_le_left hlo.le]
  · next hlo =>
    rw [not_lt] at hlo
    split
    · next hhi => rw [inf_of_le_right hhi.le, sup_of_le_right h]
    · next hhi => rw [inf_of_le_left (not_lt.mp hhi), sup_of_le_right hlo]

lemma clampUnit_eq (x : ℚ) : clampUnit x = 0 ⊔ (x ⊓ 1) :=
  ite_eq_clamp zero_le_one

end CharacterBuild.Number
