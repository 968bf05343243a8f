import Mathlib
import CharacterBuild.Number.Binary64

namespace CharacterBuild.Binary64

open Float.Model

variable {x : Float}

lemma zero_compare (x : UnpackedFloat) :
    (UnpackedFloat.zero .positive).compare x = (x.compare (.zero .positive)).map Ordering.swap := by
  cases x with
  | notANumber => rfl
  | infinity s => cases s <;> rfl
  | zero s => rfl
  | finite s units exponent hpos => cases s <;> rfl

lemma isNaN_eq (x : UnpackedFloat) : x.isNaN = (x.compare (.zero .positive)).isNone := by
  cases x with
  | notANumber => rfl
  | infinity s => cases s <;> rfl
  | zero s => rfl
  | finite s units exponent hpos => cases s <;> rfl

lemma pos_iff : 0 < x ↔ ¬ x ≤ 0 ∧ x.isNaN = false := by
  change decide _ = true ↔ ¬ decide _ = true ∧ x.toModel.unpack.isNaN = false
  rw [decide_eq_true_iff, decide_eq_true_iff, isNaN_eq]
  change ((UnpackedFloat.zero .positive).compare x.toModel.unpack == some .lt) = true ↔
    ¬ (x.toModel.unpack.compare (.zero .positive)).any (·.isLE) = true ∧ _
  rw [zero_compare]
  generalize x.toModel.unpack.compare (.zero .positive) = side
  revert side
  decide

lemma nonneg_iff : 0 ≤ x ↔ ¬ x < 0 ∧ x.isNaN = false := by
  change decide _ = true ↔ ¬ decide _ = true ∧ x.toModel.unpack.isNaN = false
  rw [decide_eq_true_iff, decide_eq_true_iff, isNaN_eq]
  change ((UnpackedFloat.zero .positive).compare x.toModel.unpack).any (·.isLE) = true ↔
    ¬ (x.toModel.unpack.compare (.zero .positive) == some .lt) = true ∧ _
  rw [zero_compare]
  generalize x.toModel.unpack.compare (.zero .positive) = side
  revert side
  decide

end CharacterBuild.Binary64
