import Mathlib
import CharacterBuild.Proofs.Affix.Line
import CharacterBuild.Proofs.Affix.Unambiguous
import CharacterBuild.Proofs.Number.Decimal
import CharacterBuild.Proofs.Number.Rounding

/-! Numbers as they are written, and what their texts are read as. Of the arithmetic nothing is assumed: the text depends on
the shortest decimal of the rounded number, which may have a sign, or be none. -/

namespace CharacterBuild

namespace Decimal

def written (d : Decimal) : Decimal :=
  match d.exponent with
  | .ofNat k => ⟨d.digits * 10 ^ k, 0⟩
  | .negSucc _ => d

lemma toRat_written (d : Decimal) : d.written.toRat = d.toRat := by
  obtain ⟨n, k⟩ := d
  cases k with
  | ofNat k => simp [written, toRat_eq]
  | negSucc k => rfl

end Decimal

namespace Affix

open Number Text

variable {α : Type} [Number α] {cs : List Char} {c : Char} {w : String}

lemma numeral_split {k : ℕ} (hk : k ≠ 0) (hlt : k < cs.length) (hcs : ∀ c ∈ cs, c.isDigit = true) :
    Numeral (cs.take k ++ '.' :: cs.drop k) ⟨placeValue cs, -(cs.length - k : ℕ)⟩ := by
  have hne : cs.take k ≠ [] := by
    rw [ne_eq, List.take_eq_nil_iff, not_or]
    exact ⟨hk, List.ne_nil_of_length_pos (by omega)⟩
  have hfne : cs.drop k ≠ [] := by simpa using hlt
  have h := Numeral.fraction hne (fun c hc => hcs c (List.mem_of_mem_take hc)) hfne
    fun c hc => hcs c (List.mem_of_mem_drop hc)
  rwa [List.take_append_drop, List.length_drop] at h

lemma numeral_whole (n k : ℕ) : Numeral (Decimal.digitText n ++ Decimal.zeros k) ⟨n * 10 ^ k, 0⟩ := by
  have hne : Decimal.digitText n ++ Decimal.zeros k ≠ [] := by simp [Decimal.digitText_ne_nil]
  have h := Numeral.whole hne fun c hc => (List.mem_append.mp hc).elim Decimal.isDigit_digitText Decimal.isDigit_zeros
  rw [← ofDigits_eq_placeValue, Decimal.ofDigits_append, Decimal.ofDigits_digitText, Decimal.ofDigits_zeros] at h
  simpa [Decimal.zeros] using h

lemma numeral_padded {n k m : ℕ} (hm : k + 2 ≤ m + (Decimal.digitText n).length) :
    let cs := Decimal.zeros m ++ Decimal.digitText n
    Numeral (cs.take (cs.length - (k + 1)) ++ '.' :: cs.drop (cs.length - (k + 1))) ⟨n, .negSucc k⟩ := by
  intro cs
  have hlen : k + 2 ≤ cs.length := by
    rw [List.length_append, Decimal.zeros, List.length_replicate]
    exact hm
  have hdigits : ∀ c ∈ cs, c.isDigit = true := fun c hc =>
    (List.mem_append.mp hc).elim Decimal.isDigit_zeros Decimal.isDigit_digitText
  have hvalue : placeValue cs = n := by
    rw [← ofDigits_eq_placeValue, Decimal.ofDigits_append, Decimal.ofDigits_zeros, Decimal.ofDigits_digitText, zero_mul,
      zero_add]
  have hnum := numeral_split (k := cs.length - (k + 1)) (by omega) (by omega) hdigits
  rwa [hvalue, Nat.sub_sub_self (by omega)] at hnum

lemma numeral_plain (d : Decimal) : Numeral d.plain d.written := by
  obtain ⟨n, k⟩ := d
  cases k with
  | ofNat k =>
    rcases eq_or_ne n 0 with rfl | hn
    · have hzero : Decimal.written ⟨0, .ofNat k⟩ = ⟨0 * 10 ^ 0, 0⟩ := by simp [Decimal.written]
      rw [hzero]
      exact numeral_whole 0 0
    · have hplain : Decimal.plain ⟨n, .ofNat k⟩ = Decimal.digitText n ++ Decimal.zeros k := if_neg hn
      rw [hplain]
      exact numeral_whole n k
  | negSucc k => exact numeral_padded (by omega)

lemma Numeral.getLast_isDigit {d : Decimal} (h : Numeral cs d) : ∀ c ∈ cs.getLast?, c.isDigit = true := by
  intro c hc
  cases h with
  | whole _ hds => exact hds c (List.mem_of_getLast? hc)
  | fraction _ _ hfne hfs =>
    rw [List.getLast?_append_of_ne_nil _ (by simp), List.getLast?_cons_of_ne_nil hfne] at hc
    exact hfs c (List.mem_of_getLast? hc)

/-! ## Texts of numbers -/

def printed (x : α) : Extended Decimal :=
  shortest .up (toMillionths x)

/-- What the text of a number is read as where no sign may stand. -/
def unsignedFigure? (x : α) : Option α :=
  match printed x with
  | .finite false d => some (ofDecimal d.written)
  | _ => none

/-- What the text of a number is read as where a sign may stand. -/
def figure? (x : α) : Option α :=
  match printed x with
  | .finite s d => some (if s then -ofDecimal d.written else ofDecimal d.written)
  | _ => none

def signedFigure? (x : α) : Option α :=
  if x < 0 then (- ·) <$> unsignedFigure? (Number.abs x) else unsignedFigure? (Number.abs x)

def percentFigure? (x : α) : Option α :=
  (· / 100) <$> signedFigure? (x * 100)

lemma toList_amount (x : α) : (amount x).toList = (printed x).write Decimal.plain :=
  String.toList_ofList

lemma toList_signed (x : α) : (signed x).toList = (if x < 0 then '-' else '+') :: (amount (Number.abs x)).toList := by
  rw [signed, String.toList_append]
  split <;> rfl

lemma amount?_amount (x : α) : amount? (amount x) = unsignedFigure? x := by
  rw [amount?, toList_amount, unsignedFigure?]
  cases printed x with
  | notANumber => rfl
  | infinite s => cases s <;> rfl
  | finite s d =>
    cases s with
    | false => exact amountChars?_eq_some_iff.mpr ⟨_, numeral_plain d, rfl⟩
    | true => rfl

lemma signed?_amount (x : α) : signed? (amount x) = figure? x := by
  rw [signed?, toList_amount, figure?]
  cases printed x with
  | notANumber => rfl
  | infinite s => cases s <;> rfl
  | finite s d =>
    cases s with
    | false => exact signedChars?_eq_some_iff.mpr (.bare (numeral_plain d))
    | true => exact signedChars?_eq_some_iff.mpr (.minus (numeral_plain d))

lemma signed?_signed (x : α) : signed? (signed x) = signedFigure? x := by
  rw [signed?, toList_signed, signedFigure?, ← amount?_amount]
  split <;> rfl

lemma percent?_append (w : String) : (percent? (w ++ "%") : Option α) = (· / 100) <$> signed? w := by
  have hsign : (w ++ "%").toList.reverse = '%' :: w.toList.reverse := by
    rw [String.toList_append, List.reverse_append]
    rfl
  rw [percent?, hsign]
  exact congrArg (fun cs => (· / 100) <$> signedChars? cs) (List.reverse_reverse _)

lemma percent?_percent (x : α) : percent? (percent x) = percentFigure? x := by
  rw [percent, percent?_append, signed?_signed, percentFigure?]

lemma percent_notMem_amount (x : α) : '%' ∉ (amount x).toList := by
  rw [toList_amount]
  cases printed x with
  | notANumber => decide
  | infinite s => cases s <;> decide
  | finite s d =>
    have hplain : '%' ∉ d.plain := fun hc => absurd ((numeral_plain d).mem hc) (by decide)
    cases s with
    | false => exact hplain
    | true => simpa [Extended.write, Extended.signed] using hplain

lemma percent?_signed (x : α) : (percent? (signed x) : Option α) = none := by
  refine Option.eq_none_iff_forall_ne_some.mpr fun y hy => ?_
  obtain ⟨cs, _, hcs, _, _⟩ := percent?_eq_some_iff.mp hy
  have hmem : '%' ∈ (signed x).toList := by simp [hcs]
  rw [toList_signed, List.mem_cons] at hmem
  rcases hmem with hmem | hmem
  · split at hmem <;> cases hmem
  · exact percent_notMem_amount _ hmem

lemma signed?_percent (x : α) : (signed? (percent x) : Option α) = none := by
  refine Option.eq_none_iff_forall_ne_some.mpr fun y hy => ?_
  have hmem : '%' ∈ (percent x).toList := by simp [percent]
  exact absurd (Signed.mem (signed?_eq_some_iff.mp hy) hmem) (by decide)

/-! ## Texts of numbers as words of a line -/

structure IsShown (cs : List Char) : Prop where
  chars : ∀ c ∈ cs, IsVisible c
  last : ∃ c ∈ cs.getLast?, isMark c = false

lemma isVisible_of_figure (h : c.isDigit = true ∨ c = '.') : IsVisible c := by
  rcases h with h | rfl
  · simp only [Char.isDigit, Bool.and_eq_true, decide_eq_true_eq] at h
    have hlo : 48 ≤ c.toNat := UInt32.le_iff_toNat_le.mp h.1
    have hhi : c.toNat ≤ 57 := UInt32.le_iff_toNat_le.mp h.2
    exact ⟨by omega, by omega⟩
  · decide

lemma isMark_of_isDigit {c : Char} (h : c.isDigit = true) : isMark c = false := by
  rw [isMark, Bool.or_eq_false_iff, decide_eq_false_iff_not, decide_eq_false_iff_not]
  constructor
  all_goals
    rintro rfl
    exact absurd h (by decide)

lemma IsShown.cons (h : IsShown cs) (hc : IsVisible c) : IsShown (c :: cs) where
  chars := List.forall_mem_cons.mpr ⟨hc, h.chars⟩
  last := by
    obtain ⟨d, hd, hmark⟩ := h.last
    have hne : cs ≠ [] := List.ne_nil_of_mem (List.mem_of_getLast? hd)
    exact ⟨d, by rwa [List.getLast?_cons_of_ne_nil hne], hmark⟩

lemma isShown_amount (x : α) : IsShown (amount x).toList := by
  rw [toList_amount]
  cases printed x with
  | notANumber => exact ⟨by simp [Extended.write, IsVisible], 'N', rfl, rfl⟩
  | infinite s => cases s <;> exact ⟨by simp [Extended.write, Extended.signed, IsVisible], 'f', rfl, rfl⟩
  | finite s d =>
    have hnumeral := numeral_plain d
    obtain ⟨c, hc⟩ := Option.isSome_iff_exists.mp (List.getLast?_isSome.mpr hnumeral.ne_nil)
    have hshown : IsShown d.plain :=
      ⟨fun c hc => isVisible_of_figure (hnumeral.mem hc), c, hc, isMark_of_isDigit (hnumeral.getLast_isDigit c hc)⟩
    cases s with
    | false => exact hshown
    | true => exact hshown.cons (by decide)

lemma isShown_signed (x : α) : IsShown (signed x).toList := by
  rw [toList_signed]
  split
  all_goals exact (isShown_amount _).cons (by decide)

lemma IsShown.append_percent (h : IsShown w.toList) : IsShown (w ++ "%").toList where
  chars c hc := by
    rcases List.mem_append.mp (String.toList_append ▸ hc) with hc | hc
    · exact h.chars c hc
    · obtain rfl := List.mem_singleton.mp hc
      decide
  last := ⟨'%', by simp, rfl⟩

lemma isShown_percent (x : α) : IsShown (percent x).toList :=
  (isShown_signed (x * 100)).append_percent

lemma IsShown.toList_heard (h : IsShown w.toList) : (heard w).toList = w.toList.map Char.toLower := by
  obtain ⟨c, hc, hmark⟩ := h.last
  have hlast : isMark c.toLower = false := by
    rw [apply_toLower (f := isMark) (by decide +kernel)]
    exact hmark
  obtain ⟨cs, hcs⟩ := List.getLast?_eq_some_iff.mp hc
  rw [heard, String.toList_ofList, hcs, dropTail]
  simp [hlast]

lemma IsShown.isWord (h : IsShown w.toList) : IsWord w where
  chars := h.chars
  heard_ne hnil := by
    obtain ⟨c, hc, _⟩ := h.last
    have hheard := h.toList_heard
    rw [hnil] at hheard
    have hempty : w.toList = [] := by simpa using hheard.symm
    rw [hempty] at hc
    cases hc

lemma IsShown.heard_eq (h : IsShown w.toList) (hfigure : IsFigure w) : heard w = w := by
  rw [← String.toList_inj, h.toList_heard]
  refine (List.map_congr_left fun c hc => ?_).trans (List.map_id _)
  refine Char.toLower_eq_of_not_isUpper fun hupper => ?_
  have hletter : c.isAlpha = true := by simp [Char.isAlpha, hupper]
  exact absurd (hfigure c hc) (by simp [hletter])

lemma isAlpha_toLower (c : Char) : c.toLower.isAlpha = c.isAlpha :=
  apply_toLower (by decide +kernel) c

lemma isFigure_heard_iff (h : IsShown w.toList) : IsFigure (heard w) ↔ IsFigure w := by
  rw [IsFigure, IsFigure, h.toList_heard, List.forall_mem_map]
  simp only [isAlpha_toLower]

lemma IsShown.read_heard {β : Type} {read : String → Option β} (hread : ∀ {w y}, read w = some y → IsFigure w)
    (h : IsShown w.toList) : read (heard w) = read w := by
  -- what is read at all has no letters, and then small letters are no change
  refine Option.ext fun y => ⟨fun hy => ?_, fun hy => ?_⟩
  · rwa [h.heard_eq ((isFigure_heard_iff h).mp (hread hy))] at hy
  · rwa [h.heard_eq (hread hy)]

lemma IsShown.notMem_tellingWords (h : IsShown w.toList) (hhead : ∃ c ∈ w.toList.head?, c.isAlpha = false) :
    heard w ∉ tellingWords := by
  have hletters : ∀ v ∈ tellingWords, ∀ c ∈ v.toList.head?, c.isAlpha = true := by simp [tellingWords]
  obtain ⟨c, hc, hsign⟩ := hhead
  intro hmem
  have hcap := hletters _ hmem c.toLower (by rw [h.toList_heard, List.head?_map, hc]; rfl)
  rw [isAlpha_toLower, hsign] at hcap
  cases hcap

lemma head_signed (x : α) : ∃ c ∈ (signed x).toList.head?, c.isAlpha = false := by
  rw [toList_signed]
  split
  · exact ⟨'-', rfl, rfl⟩
  · exact ⟨'+', rfl, rfl⟩

lemma head_percent (x : α) : ∃ c ∈ (percent x).toList.head?, c.isAlpha = false := by
  obtain ⟨c, hc, hsign⟩ := head_signed (x * 100)
  exact ⟨c, by rw [percent, String.toList_append, List.head?_append, hc]; rfl, hsign⟩

lemma amount?_heard (h : IsShown w.toList) : (amount? (heard w) : Option α) = amount? w :=
  h.read_heard fun h => (amount?_eq_some_iff.mp h).isFigure

lemma signed?_heard (h : IsShown w.toList) : (signed? (heard w) : Option α) = signed? w :=
  h.read_heard fun h => (signed?_eq_some_iff.mp h).isFigure

lemma percent?_heard (h : IsShown w.toList) : (percent? (heard w) : Option α) = percent? w :=
  h.read_heard fun h => (percent?_eq_some_iff.mp h).isFigure

/-! ## Exact numbers -/

section Exact

variable {x y : ℚ}

lemma IsAmount.nonneg (h : IsAmount w x) : 0 ≤ x := by
  obtain ⟨d, _, rfl⟩ := h
  have hvalue : (ofDecimal d : ℚ) = d.digits * (10 : ℚ) ^ d.exponent := Decimal.toRat_eq d
  rw [hvalue]
  positivity

lemma printed_eq (x : ℚ) : printed x = .finite (toMillionths x < 0) (Rational.decimal (toMillionths x)) :=
  rfl

lemma ofDecimal_printed (x : ℚ) : ofDecimal (Rational.decimal (toMillionths x)).written = |toMillionths x| :=
  (Decimal.toRat_written _).trans (Rational.toRat_decimal (den_toMillionths x))

lemma unsignedFigure?_eq (h : 0 ≤ toMillionths x) : unsignedFigure? x = some (toMillionths x) := by
  rw [unsignedFigure?, printed_eq, decide_eq_false h.not_gt]
  exact congrArg some ((ofDecimal_printed x).trans (abs_of_nonneg h))

lemma figure?_eq (x : ℚ) : figure? x = some (toMillionths x) := by
  rw [figure?, printed_eq]
  rcases lt_or_ge (toMillionths x) 0 with h | h
  · rw [decide_eq_true h]
    exact congrArg some (neg_eq_iff_eq_neg.mpr ((ofDecimal_printed x).trans (abs_of_neg h)))
  · rw [decide_eq_false h.not_gt]
    exact congrArg some ((ofDecimal_printed x).trans (abs_of_nonneg h))

lemma signedFigure?_eq (x : ℚ) : signedFigure? x = some (toMillionths x) := by
  rw [signedFigure?]
  split
  · next h =>
    have habs : Number.abs x = -x := if_pos h
    rw [habs, unsignedFigure?_eq (toMillionths_nonneg (neg_nonneg.mpr h.le)), toMillionths_neg]
    exact congrArg some (neg_neg _)
  · next h =>
    have habs : Number.abs x = x := if_neg h
    rw [habs, unsignedFigure?_eq (toMillionths_nonneg (not_lt.mp h))]

lemma percentFigure?_eq (x : ℚ) : percentFigure? x = some (toMillionths (x * 100) / 100) := by
  rw [percentFigure?, signedFigure?_eq]
  rfl

end Exact

end Affix
end CharacterBuild
