import Mathlib
import CharacterBuild.Text.Lowercase
import CharacterBuild.Text.Space

/-! Lower case word by word: what stands beyond a blank decides no small letter, so a text may be cut at its blanks before
or after it is put in lower case. -/

namespace CharacterBuild.Text

variable {β : Type} {b c d : Char} {before near far cs ds : List Char}

lemma toLower_eq_self (h : c.toNat < 65 ∨ 90 < c.toNat) : c.toLower = c := by
  refine Char.toLower_eq_of_not_isUpper fun hupper => ?_
  simp only [Char.isUpper, decide_eq_true_eq] at hupper
  have hlo : 65 ≤ c.toNat := UInt32.le_iff_toNat_le.mp hupper.1
  have hhi : c.toNat ≤ 90 := UInt32.le_iff_toNat_le.mp hupper.2
  omega

/-- What holds of the capital letters of ASCII and their small ones alike does not see the case of ASCII letters. -/
lemma apply_toLower {f : Char → β} (h : ∀ n < 26, f (Char.ofNat (65 + n)).toLower = f (Char.ofNat (65 + n))) (c : Char) :
    f c.toLower = f c := by
  by_cases hc : 65 ≤ c.toNat ∧ c.toNat ≤ 90
  · have hcapital : Char.ofNat (65 + (c.toNat - 65)) = c := by
      rw [Nat.add_sub_cancel' hc.1, Char.ofNat_toNat]
    simpa only [hcapital] using h (c.toNat - 65) (by omega)
  · rw [toLower_eq_self (by omega)]

lemma shift_caseRuns : ∀ r ∈ caseRuns, 90 < (r.first : ℤ) + r.shift := by
  decide +kernel

lemma toLower_of_mem_lowerChar (h : d ∈ lowerChar c) : d.toLower = d := by
  unfold lowerChar at h
  split at h
  · obtain rfl := List.mem_singleton.mp h
    exact Char.toLower_toLower_eq_toLower c
  · split at h
    · rcases List.mem_pair.mp h with rfl | rfl <;> decide
    · split at h
      · next r hr =>
        obtain rfl := List.mem_singleton.mp h
        have hcap := shift_caseRuns r (List.mem_of_find?_eq_some hr)
        have hcover : r.first ≤ c.toNat := by
          have hcovers := List.find?_some hr
          simp only [CaseRun.covers, Bool.and_eq_true, decide_eq_true_eq] at hcovers
          exact hcovers.1.1
        refine toLower_eq_self ?_
        rw [Char.toNat_ofNat]
        split <;> omega
      · obtain rfl := List.mem_singleton.mp h
        exact toLower_eq_self (by omega)

lemma toLower_of_mem_lowerBehind (h : d ∈ lowerBehind before cs) : d.toLower = d := by
  induction cs generalizing before with
  | nil => cases h
  | cons c cs ih =>
    rcases List.mem_append.mp h with h | h
    · split at h
      · obtain rfl := List.mem_singleton.mp h
        unfold smallSigma
        split <;> decide
      · exact toLower_of_mem_lowerChar h
    · exact ih h

lemma ne_sigma_of_lowerChar (h : lowerChar c = [c]) : c ≠ 'Σ' := by
  rintro rfl
  revert h
  decide

lemma lowerBehind_cons_of_small (h : lowerChar c = [c]) :
    lowerBehind before (c :: cs) = c :: lowerBehind (c :: before) cs := by
  rw [lowerBehind, if_neg (ne_sigma_of_lowerChar h), h, List.singleton_append]

lemma lowerBehind_eq_self (h : ∀ c ∈ cs, lowerChar c = [c]) : lowerBehind before cs = cs := by
  induction cs generalizing before with
  | nil => rfl
  | cons c cs ih => rw [lowerBehind_cons_of_small (h c (.head _)), ih fun d hd => h d (.tail c hd)]

section Context

lemma meetsCased_cons : meetsCased (c :: cs) = if isPassedOver c then meetsCased cs else isCased c := by
  unfold meetsCased
  cases hc : isPassedOver c <;> simp [hc]

lemma meetsCased_of_not_cased (h : ∀ c ∈ cs, isCased c = false) : meetsCased cs = false := by
  induction cs with
  | nil => rfl
  | cons c cs ih =>
    rw [meetsCased_cons, h c (.head _), ih fun d hd => h d (.tail c hd)]
    split <;> rfl

lemma meetsCased_append (h : meetsCased far = false) : meetsCased (near ++ far) = meetsCased near := by
  induction near with
  | nil => exact h
  | cons c near ih => rw [List.cons_append, meetsCased_cons, meetsCased_cons, ih]

lemma lowerBehind_append (h : meetsCased ds = false) :
    lowerBehind before (cs ++ ds) = lowerBehind before cs ++ lowerBehind (cs.reverse ++ before) ds := by
  induction cs generalizing before with
  | nil => rfl
  | cons c cs ih =>
    rw [List.cons_append, lowerBehind, lowerBehind, ih, smallSigma, meetsCased_append h, ← smallSigma]
    simp

lemma lowerBehind_of_far (h : meetsCased far = false) : lowerBehind (near ++ far) cs = lowerBehind near cs := by
  induction cs generalizing near with
  | nil => rfl
  | cons c cs ih =>
    rw [lowerBehind, lowerBehind, smallSigma, meetsCased_append h, ← smallSigma, ← List.cons_append, ih]

end Context

section Blank

def blankCodes : List ℕ :=
  [0x9, 0xA, 0xB, 0xC, 0xD, 0x20, 0x85, 0xA0, 0x1680, 0x2000, 0x2001, 0x2002, 0x2003, 0x2004, 0x2005, 0x2006, 0x2007,
   0x2008, 0x2009, 0x200A, 0x2028, 0x2029, 0x202F, 0x205F, 0x3000]

lemma isBlank_iff : isBlank c = true ↔ c.toNat ∈ blankCodes := by
  simp only [isBlank, Bool.or_eq_true, Bool.and_eq_true, decide_eq_true_eq, beq_iff_eq, blankCodes, List.mem_cons,
    List.not_mem_nil, or_false]
  omega

lemma of_isBlank {P : Char → Prop} (h : ∀ n ∈ blankCodes, P (.ofNat n)) (hb : isBlank b = true) : P b := by
  simpa using h b.toNat (isBlank_iff.mp hb)

lemma lowerChar_of_isBlank (hb : isBlank b = true) : lowerChar b = [b] :=
  of_isBlank (P := fun b => lowerChar b = [b]) (by decide +kernel) hb

lemma meetsCased_of_isBlank (hb : isBlank b = true) : meetsCased (b :: cs) = false := by
  have hbare : isPassedOver b = false ∧ isCased b = false :=
    of_isBlank (P := fun b => isPassedOver b = false ∧ isCased b = false) (by decide +kernel) hb
  rw [meetsCased_cons, hbare.1, hbare.2]
  rfl

lemma lower_append_cons (hb : isBlank b = true) (cs ds : List Char) : lower (cs ++ b :: ds) = lower cs ++ b :: lower ds := by
  have hbeyond : lowerBehind ([] ++ b :: (cs.reverse ++ [])) ds = lowerBehind [] ds :=
    lowerBehind_of_far (meetsCased_of_isBlank hb)
  rw [lower, lowerBehind_append (meetsCased_of_isBlank hb), lowerBehind_cons_of_small (lowerChar_of_isBlank hb)]
  exact congrArg (lower cs ++ b :: ·) hbeyond

example : lower "ΟΔΟΣ ΣΟΦΟΣ.".toList = "οδος σοφος.".toList := by decide +kernel

end Blank

section Letters

lemma meetsCased_map_toLower (cs : List Char) : meetsCased (cs.map Char.toLower) = meetsCased cs := by
  induction cs with
  | nil => rfl
  | cons c cs ih =>
    rw [List.map_cons, meetsCased_cons, meetsCased_cons, ih, apply_toLower (f := isPassedOver) (by decide +kernel),
      apply_toLower (f := isCased) (by decide +kernel)]

lemma lowerBehind_map_toLower (before cs : List Char) :
    lowerBehind (before.map Char.toLower) (cs.map Char.toLower) = lowerBehind before cs := by
  induction cs generalizing before with
  | nil => rfl
  | cons c cs ih =>
    have hsigma : c.toLower = 'Σ' ↔ c = 'Σ' :=
      Iff.of_eq (apply_toLower (f := (· = 'Σ')) (by decide +kernel) c)
    have hchar : lowerChar c.toLower = lowerChar c := apply_toLower (by decide +kernel) c
    rw [List.map_cons, lowerBehind, lowerBehind, ← ih, smallSigma, meetsCased_map_toLower, meetsCased_map_toLower,
      ← smallSigma, hchar]
    simp only [hsigma, List.map_cons]

lemma lowerBehind_of_ascii {before : List Char} (h : ∀ c ∈ cs, c.toNat < 0x80) :
    lowerBehind before cs = cs.map Char.toLower := by
  induction cs generalizing before with
  | nil => rfl
  | cons c cs ih =>
    obtain ⟨hc, hcs⟩ := List.forall_mem_cons.mp h
    have hsigma : c ≠ 'Σ' := by
      rintro rfl
      exact absurd hc (by decide)
    rw [lowerBehind, if_neg hsigma, lowerChar, if_pos hc, ih hcs]
    rfl

lemma lower_congr (h : cs.map Char.toLower = ds.map Char.toLower) : lower cs = lower ds := by
  rw [lower, lower, ← lowerBehind_map_toLower, h, lowerBehind_map_toLower]

end Letters

end CharacterBuild.Text
