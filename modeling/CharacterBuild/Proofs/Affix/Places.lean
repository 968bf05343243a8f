import Mathlib
import CharacterBuild.Proofs.Affix.Figure

/-! Numbers as they are read. A text is a number if it passes a scan from its head to its end; the text of a number is read
as that number rounded to six decimals. -/

namespace CharacterBuild.Affix

open Number

def digitsAndPoint : Bool → List Char → Bool
  | _, [] => true
  | seen, c :: cs => if c.isDigit then digitsAndPoint seen cs else c = '.' && !seen && digitsAndPoint true cs

def Scanned (cs : List Char) : Prop :=
  (∃ c ∈ cs.head?, c.isDigit = true) ∧ cs.getLast? ≠ some '.' ∧ digitsAndPoint false cs = true

variable {cs : List Char} {c : Char} {w : String} {x : ℚ}

lemma digitsAndPoint_true_iff : digitsAndPoint true cs = true ↔ ∀ c ∈ cs, c.isDigit = true := by
  induction cs with
  | nil => simp [digitsAndPoint]
  | cons c cs ih => by_cases hc : c.isDigit = true <;> simp [digitsAndPoint, hc, ih]

def Pointed (cs : List Char) : Prop :=
  ∃ ds fs, cs = ds ++ '.' :: fs ∧ (∀ c ∈ ds, c.isDigit = true) ∧ ∀ c ∈ fs, c.isDigit = true

lemma pointed_cons_of_isDigit (hc : c.isDigit = true) : Pointed (c :: cs) ↔ Pointed cs := by
  constructor
  · rintro ⟨ds, fs, hcs, hds, hfs⟩
    cases ds with
    | nil =>
      obtain ⟨rfl, -⟩ := List.cons.inj hcs
      exact absurd hc (by decide)
    | cons e ds =>
      obtain ⟨-, rfl⟩ := List.cons.inj hcs
      exact ⟨ds, fs, rfl, (List.forall_mem_cons.mp hds).2, hfs⟩
  · rintro ⟨ds, fs, rfl, hds, hfs⟩
    exact ⟨c :: ds, fs, rfl, List.forall_mem_cons.mpr ⟨hc, hds⟩, hfs⟩

lemma pointed_cons_of_not (hc : ¬ c.isDigit = true) : Pointed (c :: cs) ↔ c = '.' ∧ ∀ c ∈ cs, c.isDigit = true := by
  constructor
  · rintro ⟨ds, fs, hcs, hds, hfs⟩
    cases ds with
    | nil =>
      obtain ⟨rfl, rfl⟩ := List.cons.inj hcs
      exact ⟨rfl, hfs⟩
    | cons e ds =>
      obtain ⟨rfl, -⟩ := List.cons.inj hcs
      exact absurd (List.forall_mem_cons.mp hds).1 hc
  · rintro ⟨rfl, hcs⟩
    exact ⟨[], cs, rfl, by simp, hcs⟩

lemma digitsAndPoint_false_iff : digitsAndPoint false cs = true ↔ (∀ c ∈ cs, c.isDigit = true) ∨ Pointed cs := by
  induction cs with
  | nil => simp [digitsAndPoint]
  | cons c cs ih =>
    by_cases hc : c.isDigit = true
    · rw [digitsAndPoint, if_pos hc, ih, pointed_cons_of_isDigit hc, List.forall_mem_cons, and_iff_right hc]
    · rw [digitsAndPoint, if_neg hc, pointed_cons_of_not hc, List.forall_mem_cons]
      simp [hc, digitsAndPoint_true_iff]

lemma Numeral.head_isDigit {d : Decimal} (h : Numeral cs d) : ∃ c ∈ cs.head?, c.isDigit = true := by
  cases h with
  | whole hne hds | fraction hne hds _ _ =>
    obtain ⟨c, cs, rfl⟩ := List.exists_cons_of_ne_nil hne
    exact ⟨c, rfl, hds c (.head _)⟩

lemma scanned_iff : Scanned cs ↔ ∃ d, Numeral cs d := by
  constructor
  · rintro ⟨⟨c, hc, hdigit⟩, hlast, hscan⟩
    rcases digitsAndPoint_false_iff.mp hscan with hcs | ⟨ds, fs, rfl, hds, hfs⟩
    · exact ⟨_, .whole (List.ne_nil_of_mem (List.mem_of_mem_head? hc)) hcs⟩
    · have hne : ds ≠ [] := by
        rintro rfl
        obtain rfl := Option.some.inj hc
        exact absurd hdigit (by decide)
      have hfne : fs ≠ [] := by
        rintro rfl
        exact hlast List.getLast?_concat
      exact ⟨_, .fraction hne hds hfne hfs⟩
  · rintro ⟨d, h⟩
    refine ⟨h.head_isDigit, ?_, ?_⟩
    · intro hlast
      exact absurd (h.getLast_isDigit '.' hlast) (by decide)
    · rw [digitsAndPoint_false_iff]
      cases h with
      | whole _ hds => exact .inl hds
      | fraction _ hds _ hfs => exact .inr ⟨_, _, rfl, hds, hfs⟩

lemma amount?_isSome_iff {α : Type} [Number α] : (amount? w : Option α).isSome ↔ Scanned w.toList := by
  rw [scanned_iff, Option.isSome_iff_exists]
  simp [amount?_eq_some_iff, IsAmount]

theorem numbers_read_as_written (s : String) (x : ℚ) :
    (amount? s = some x ↔ Worth s.toList x) ∧
      (∀ (α : Type) [Number α], (amount? s : Option α).isSome ↔ Scanned s.toList) ∧
      (signed? s = some x ↔ SignedWorth s.toList x) ∧
      (percent? s = some x ↔ ∃ cs, s.toList = cs ++ ['%'] ∧ SignedWorth cs (x * 100)) ∧
      (∃ y, signed? (signed x) = some y ∧ ∀ z, RoundedTo x z ↔ z = y) ∧
      ∃ y, percent? (percent x) = some (y / 100) ∧ ∀ z, RoundedTo (x * 100) z ↔ z = y := by
  refine ⟨?_, fun α _ => amount?_isSome_iff, ?_, ?_, ?_, ?_⟩
  · exact amount?_eq_some_iff.trans worth_iff.symm
  · exact signed?_eq_some_iff.trans signedWorth_iff.symm
  · exact percent?_eq_some_iff.trans isPercent_iff
  · exact ⟨toMillionths x, (signed?_signed x).trans (signedFigure?_eq x), fun z => roundedTo_iff⟩
  · exact ⟨toMillionths (x * 100), (percent?_percent x).trans (percentFigure?_eq x), fun z => roundedTo_iff⟩

example : signed (-(5 / 10 ^ 7) : ℚ) = "-0.000001" := by decide +kernel

end CharacterBuild.Affix
