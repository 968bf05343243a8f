import Mathlib
import CharacterBuild.Proofs.Build.CleanUp
import CharacterBuild.Proofs.Text.FirstWord

/-! What is left of a prism. Its base affix stays if it suits the rarity, and a gauge affix stays if there are fewer of its
own rarity before it than the prism has room for; of the other rarity there may be any number. -/

namespace CharacterBuild

namespace Prism

/-- A base affix that is blank, or that begins with the word of its prism's rarity in letters of either case. -/
def Suits (p : Prism) : Prop :=
  (∀ c ∈ p.baseAffix.toList, Text.isBlank c = true) ∨ Text.sameLetters (Text.firstWord p.baseAffix) p.baseWord = true

instance (p : Prism) : Decidable p.Suits :=
  inferInstanceAs (Decidable (_ ∨ _))

lemma hasValidBase_iff (p : Prism) : p.hasValidBase = true ↔ p.Suits := by
  have hhead := Text.head?_words p.baseAffix.toList
  rw [hasValidBase, Suits, Text.firstWord]
  cases hwords : Text.words p.baseAffix.toList with
  | nil =>
    rw [hwords] at hhead
    split at hhead
    · next hblank => exact iff_of_true rfl (.inl hblank)
    · cases hhead
  | cons w ws =>
    rw [hwords] at hhead
    split at hhead
    · cases hhead
    · next hblank =>
      obtain rfl := Option.some.inj hhead
      exact (or_iff_right hblank).symm

end Prism

namespace CleanUp

variable {p : Prism} {r : Rarity} {n : ℕ} {gs : List Gauge}

lemma countP_capGauges {r' : Rarity} (h : r' ≠ r) : (capGauges r n gs).countP (·.rarity = r') = gs.countP (·.rarity = r') := by
  rw [List.countP_eq_length_filter, List.countP_eq_length_filter, filter_capGauges_of_ne h]

lemma gauges_prism (p : Prism) : (prism p).gauges =
    selected (fun before g => before.countP (·.rarity = g.rarity) < p.maxGauges g.rarity) p.gauges := by
  rw [prism]
  dsimp only
  rw [capGauges_eq_selected, capGauges_eq_selected, selected_selected]
  -- the second pass counts what the first one leaves, and the first leaves all that the second one counts
  refine selected_congr (fun before g => ?_) p.gauges
  rw [← capGauges_eq_selected, countP_capGauges (by decide)]
  cases g.rarity <;> simp

lemma gaugeCount_prism (p : Prism) (r : Rarity) : (prism p).gaugeCount r = min (p.gaugeCount r) (p.maxGauges r) := by
  rw [Prism.gaugeCount, List.countP_eq_length_filter, filter_gauges_prism, List.length_take, min_comm,
    ← List.countP_eq_length_filter]
  rfl

lemma filter_capGauges_others (r : Rarity) (n : ℕ) (gs : List Gauge) :
    (capGauges r n gs).filter (·.rarity ≠ r) = gs.filter (·.rarity ≠ r) := by
  rw [capGauges_eq_selected]
  exact filter_selected (fun _ g hg => .inl (of_decide_eq_true hg)) gs

structure PrismCleaned (p p' : Prism) : Prop where
  name : p'.name = p.name
  rarity : p'.rarity = p.rarity
  base : p'.baseAffix = if p.Suits then p.baseAffix else ""
  gauges : p'.gauges = selected (fun before g => before.countP (·.rarity = g.rarity) < p.maxGauges g.rarity) p.gauges
  order : p'.gauges.Sublist p.gauges
  first : ∀ r, p'.gauges.filter (·.rarity = r) = (p.gauges.filter (·.rarity = r)).take (p.maxGauges r)
  suits : p'.Suits
  count : ∀ r, p'.gaugeCount r = min (p.gaugeCount r) (p.maxGauges r)

theorem prism_cleaned_by_rarity (p : Prism) : PrismCleaned p (prism p) ∧ ∀ r n gs,
    capGauges r n gs = selected (fun before g => g.rarity ≠ r ∨ before.countP (·.rarity = r) < n) gs ∧
      (capGauges r n gs).filter (·.rarity ≠ r) = gs.filter (·.rarity ≠ r) := by
  refine ⟨?_, fun r n gs => ⟨capGauges_eq_selected r n gs, filter_capGauges_others r n gs⟩⟩
  exact {
    name := rfl
    rarity := rfl
    base := by
      simp only [← Prism.hasValidBase_iff]
      rfl
    gauges := gauges_prism p
    order := gauges_prism p ▸ selected_sublist
    first := filter_gauges_prism p
    suits := (Prism.hasValidBase_iff _).mp (hasValidBase_prism p)
    count := gaugeCount_prism p }

example : (prism ⟨"Prism", .legendary, " REPLACES a talent", [⟨.legendary, "a"⟩, ⟨.rare, "b"⟩, ⟨.legendary, "c"⟩, ⟨.rare, "d"⟩,
    ⟨.rare, "e"⟩]⟩) = ⟨"Prism", .legendary, " REPLACES a talent", [⟨.legendary, "a"⟩, ⟨.rare, "b"⟩, ⟨.rare, "d"⟩]⟩ := by
  decide +kernel

end CleanUp
end CharacterBuild
