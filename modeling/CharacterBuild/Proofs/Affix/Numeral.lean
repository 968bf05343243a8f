import Mathlib
import CharacterBuild.Affix.Numeral
import CharacterBuild.Proofs.Number.Decimal

namespace CharacterBuild.Affix

def placeValue (cs : List Char) : ℕ :=
  Nat.ofDigits 10 (cs.reverse.map fun c => c.toNat - '0'.toNat)

inductive Numeral : List Char → Decimal → Prop
  | whole {ds : List Char} (hne : ds ≠ []) (hds : ∀ c ∈ ds, c.isDigit = true) : Numeral ds ⟨placeValue ds, 0⟩
  | fraction {ds fs : List Char} (hne : ds ≠ []) (hds : ∀ c ∈ ds, c.isDigit = true) (hfne : fs ≠ [])
      (hfs : ∀ c ∈ fs, c.isDigit = true) : Numeral (ds ++ '.' :: fs) ⟨placeValue (ds ++ fs), -fs.length⟩

variable {α : Type} [Number α]

inductive Signed : List Char → α → Prop
  | bare {cs : List Char} {d : Decimal} (h : Numeral cs d) : Signed cs (Number.ofDecimal d)
  | plus {cs : List Char} {d : Decimal} (h : Numeral cs d) : Signed ('+' :: cs) (Number.ofDecimal d)
  | minus {cs : List Char} {d : Decimal} (h : Numeral cs d) : Signed ('-' :: cs) (-Number.ofDecimal d)

def IsAmount (w : String) (x : α) : Prop :=
  ∃ d, Numeral w.toList d ∧ Number.ofDecimal d = x

def IsSigned (w : String) (x : α) : Prop :=
  Signed w.toList x

/-- A signed numeral before a percent sign, for a hundredth of it. -/
def IsPercent (w : String) (x : α) : Prop :=
  ∃ cs, ∃ y : α, w.toList = cs ++ ['%'] ∧ Signed cs y ∧ y / 100 = x

variable {cs : List Char} {d : Decimal} {w : String} {x y : α}

lemma Numeral.ne_nil (h : Numeral cs d) : cs ≠ [] := by
  cases h with
  | whole hne _ => exact hne
  | fraction hne _ _ _ => simp

lemma Numeral.mem (h : Numeral cs d) {c : Char} (hc : c ∈ cs) : c.isDigit = true ∨ c = '.' := by
  cases h with
  | whole _ hds => exact .inl (hds c hc)
  | fraction _ hds _ hfs =>
    rcases List.mem_append.mp hc with hc | hc
    · exact .inl (hds c hc)
    · rcases List.mem_cons.mp hc with hc | hc
      · exact .inr hc
      · exact .inl (hfs c hc)

lemma digits_append_of_not {ds rest : List Char} (hds : ∀ c ∈ ds, c.isDigit = true)
    (hrest : ∀ c ∈ rest.head?, c.isDigit = false) : Text.digits (ds ++ rest) = (ds, rest) := by
  rw [Text.digits, List.takeWhile_append_of_pos hds, List.dropWhile_append_of_pos hds]
  cases rest with
  | nil => simp
  | cons c rest =>
    have hc : c.isDigit = false := hrest c rfl
    simp [hc]

lemma ofDigits_eq_placeValue (cs : List Char) : Decimal.ofDigits cs = placeValue cs := by
  induction cs using List.reverseRecOn with
  | nil => rfl
  | append_singleton cs c ih =>
    rw [Decimal.ofDigits_append, ih, placeValue, placeValue, List.reverse_append, List.reverse_singleton,
      List.singleton_append, List.map_cons, Nat.ofDigits_cons]
    simp [Decimal.ofDigits, Decimal.digitValue]
    ring

lemma numeral_of_decimal? (h : decimal? cs = some d) : Numeral cs d := by
  have hsplit := Text.digits_append cs
  have hdigits : ∀ c ∈ (Text.digits cs).1, c.isDigit = true := fun c hc => List.mem_takeWhile_imp hc
  unfold decimal? at h
  split at h
  · cases h
  · next hne hcut =>
    rw [hcut] at hsplit hdigits
    obtain rfl := Option.some.inj h
    rw [← hsplit, List.append_nil, ofDigits_eq_placeValue]
    exact .whole hne hdigits
  · next hne hcut =>
    rw [hcut] at hsplit hdigits
    split at h
    · next hfrac =>
      obtain rfl := Option.some.inj h
      rw [← hsplit, ofDigits_eq_placeValue]
      exact .fraction hne hdigits hfrac.1 (List.all_eq_true.mp hfrac.2)
    · cases h
  · cases h

lemma Numeral.decimal?_eq (h : Numeral cs d) : decimal? cs = some d := by
  cases h with
  | whole hne hds =>
    have hcut : Text.digits (cs ++ []) = (cs, []) := digits_append_of_not hds (by simp)
    rw [List.append_nil] at hcut
    rw [decimal?, hcut, ← ofDigits_eq_placeValue]
    obtain ⟨c, cs, rfl⟩ := List.exists_cons_of_ne_nil hne
    rfl
  | fraction hne hds hfne hfs =>
    rw [decimal?, digits_append_of_not hds (by simp), ← ofDigits_eq_placeValue]
    obtain ⟨c, cs, rfl⟩ := List.exists_cons_of_ne_nil hne
    exact if_pos ⟨hfne, List.all_eq_true.mpr hfs⟩

lemma decimal?_eq_some_iff : decimal? cs = some d ↔ Numeral cs d :=
  ⟨numeral_of_decimal?, Numeral.decimal?_eq⟩

lemma amountChars?_eq_some_iff : amountChars? cs = some x ↔ ∃ d, Numeral cs d ∧ Number.ofDecimal d = x := by
  simp [amountChars?, decimal?_eq_some_iff]

lemma amount?_eq_some_iff : amount? w = some x ↔ IsAmount w x :=
  amountChars?_eq_some_iff

lemma signedChars?_eq_some_iff : signedChars? cs = some x ↔ Signed cs x := by
  constructor
  · intro h
    unfold signedChars? at h
    split at h
    · obtain ⟨y, hy, rfl⟩ := Option.map_eq_some_iff.mp h
      obtain ⟨d, hd, rfl⟩ := amountChars?_eq_some_iff.mp hy
      exact .minus hd
    · obtain ⟨d, hd, rfl⟩ := amountChars?_eq_some_iff.mp h
      exact .plus hd
    · obtain ⟨d, hd, rfl⟩ := amountChars?_eq_some_iff.mp h
      exact .bare hd
  · intro h
    cases h with
    | bare h =>
      have hread : amountChars? cs = some (Number.ofDecimal _ : α) := amountChars?_eq_some_iff.mpr ⟨_, h, rfl⟩
      unfold signedChars?
      split
      -- a numeral begins with neither sign
      · exact absurd (h.mem (.head _)) (by decide)
      · exact absurd (h.mem (.head _)) (by decide)
      · exact hread
    | plus h => exact amountChars?_eq_some_iff.mpr ⟨_, h, rfl⟩
    | minus h => exact Option.map_eq_some_iff.mpr ⟨_, amountChars?_eq_some_iff.mpr ⟨_, h, rfl⟩, rfl⟩

lemma signed?_eq_some_iff : signed? w = some x ↔ IsSigned w x :=
  signedChars?_eq_some_iff

lemma percent?_eq_some_iff : percent? w = some x ↔ IsPercent w x := by
  constructor
  · intro h
    unfold percent? at h
    split at h
    · next cs hcs =>
      obtain ⟨y, hy, rfl⟩ := Option.map_eq_some_iff.mp h
      refine ⟨cs.reverse, y, ?_, signedChars?_eq_some_iff.mp hy, rfl⟩
      rw [← List.reverse_reverse w.toList, hcs, List.reverse_cons]
    · cases h
  · rintro ⟨cs, y, hw, hy, rfl⟩
    rw [percent?, hw, List.reverse_append]
    exact Option.map_eq_some_iff.mpr ⟨y, by simpa using signedChars?_eq_some_iff.mpr hy, rfl⟩

lemma Signed.mem (h : Signed cs x) {c : Char} (hc : c ∈ cs) : c.isDigit = true ∨ c = '.' ∨ c = '+' ∨ c = '-' := by
  cases h with
  | bare h => exact (h.mem hc).imp_right .inl
  | plus h =>
    rcases List.mem_cons.mp hc with hc | hc
    · exact .inr (.inr (.inl hc))
    · exact (h.mem hc).imp_right .inl
  | minus h =>
    rcases List.mem_cons.mp hc with hc | hc
    · exact .inr (.inr (.inr hc))
    · exact (h.mem hc).imp_right .inl

lemma IsSigned.mem (h : IsSigned w x) {c : Char} (hc : c ∈ w.toList) :
    c.isDigit = true ∨ c = '.' ∨ c = '+' ∨ c = '-' ∨ c = '%' := by
  have hmem := Signed.mem h hc
  tauto

lemma IsPercent.mem (h : IsPercent w x) {c : Char} (hc : c ∈ w.toList) :
    c.isDigit = true ∨ c = '.' ∨ c = '+' ∨ c = '-' ∨ c = '%' := by
  obtain ⟨cs, y, hw, hy, _⟩ := h
  rw [hw, List.mem_append, List.mem_singleton] at hc
  rcases hc with hc | hc
  · have hmem := hy.mem hc
    tauto
  · tauto

lemma IsPercent.not_isSigned (h : IsPercent w x) : ¬ IsSigned w y := by
  obtain ⟨cs, _, hw, _, _⟩ := h
  intro hs
  rw [IsSigned, hw] at hs
  exact absurd (hs.mem (c := '%') (by simp)) (by decide)

/-- What a numeral is worth, the digits behind the point by the places below one. -/
inductive Worth : List Char → ℚ → Prop
  | whole {ds : List Char} (hne : ds ≠ []) (hds : ∀ c ∈ ds, c.isDigit = true) : Worth ds (placeValue ds)
  | fraction {ds fs : List Char} (hne : ds ≠ []) (hds : ∀ c ∈ ds, c.isDigit = true) (hfne : fs ≠ [])
      (hfs : ∀ c ∈ fs, c.isDigit = true) :
      Worth (ds ++ '.' :: fs) (placeValue ds + placeValue fs / 10 ^ fs.length)

def SignedWorth (cs : List Char) (x : ℚ) : Prop :=
  Worth cs x ∨ (∃ ds, cs = '+' :: ds ∧ Worth ds x) ∨ ∃ ds, cs = '-' :: ds ∧ Worth ds (-x)

section Worth

variable {x : ℚ}

lemma placeValue_append (ds fs : List Char) : placeValue (ds ++ fs) = placeValue ds * 10 ^ fs.length + placeValue fs := by
  simp only [← ofDigits_eq_placeValue, Decimal.ofDigits_append]

lemma toRat_whole (ds : List Char) : (⟨placeValue ds, 0⟩ : Decimal).toRat = placeValue ds := by
  rw [Decimal.toRat_eq, zpow_zero, mul_one]

lemma toRat_fraction (ds fs : List Char) :
    (⟨placeValue (ds ++ fs), -fs.length⟩ : Decimal).toRat = placeValue ds + placeValue fs / 10 ^ fs.length := by
  rw [Decimal.toRat_eq, placeValue_append, zpow_neg, zpow_natCast]
  push_cast
  field_simp

lemma worth_iff : Worth cs x ↔ ∃ d, Numeral cs d ∧ d.toRat = x := by
  constructor
  · intro h
    cases h with
    | whole hne hds => exact ⟨_, .whole hne hds, toRat_whole _⟩
    | fraction hne hds hfne hfs => exact ⟨_, .fraction hne hds hfne hfs, toRat_fraction _ _⟩
  · rintro ⟨d, h, rfl⟩
    cases h with
    | whole hne hds =>
      rw [toRat_whole]
      exact .whole hne hds
    | fraction hne hds hfne hfs =>
      rw [toRat_fraction]
      exact .fraction hne hds hfne hfs

lemma signedWorth_iff : SignedWorth cs x ↔ Signed cs x := by
  constructor
  · rintro (h | ⟨ds, rfl, h⟩ | ⟨ds, rfl, h⟩)
    · obtain ⟨d, hd, rfl⟩ := worth_iff.mp h
      exact .bare hd
    · obtain ⟨d, hd, rfl⟩ := worth_iff.mp h
      exact .plus hd
    · obtain ⟨d, hd, hvalue⟩ := worth_iff.mp h
      obtain rfl : -d.toRat = x := neg_eq_iff_eq_neg.mpr hvalue
      exact .minus hd
  · intro h
    cases h with
    | bare h => exact .inl (worth_iff.mpr ⟨_, h, rfl⟩)
    | plus h => exact .inr (.inl ⟨_, rfl, worth_iff.mpr ⟨_, h, rfl⟩⟩)
    | minus h => exact .inr (.inr ⟨_, rfl, worth_iff.mpr ⟨_, h, (neg_neg _).symm⟩⟩)

lemma isPercent_iff : IsPercent w x ↔ ∃ cs, w.toList = cs ++ ['%'] ∧ SignedWorth cs (x * 100) := by
  apply exists_congr
  intro cs
  rw [signedWorth_iff]
  constructor
  · rintro ⟨y, hw, hy, rfl⟩
    refine ⟨hw, ?_⟩
    rwa [div_mul_cancel₀ _ (by norm_num)]
  · rintro ⟨hw, h⟩
    exact ⟨_, hw, h, mul_div_cancel_right₀ x (by norm_num)⟩

end Worth

end CharacterBuild.Affix
