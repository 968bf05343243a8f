import CharacterBuild.Proofs.Affix.Acceptance
import CharacterBuild.Proofs.Affix.Figure

/-! Every modifier that a text gives is one that the formulas can read: its scope suits its stat, it adds up where nothing
multiplies, and its numbers have the signs and the average that they stand for. -/

namespace CharacterBuild

def Stat.onlyAdds : Stat → Bool
  | resistance | maxResistance | attributePoints _ | flatDamage | maxSpellBurst | ingenuityOverload | reap => true
  | _ => false

def Modifier.NumbersFit (m : Modifier ℚ) : Prop :=
  match m.effect with
  | .flatDamage _ lo hi => 0 ≤ lo ∧ 0 ≤ hi ∧ m.value = (lo + hi) / 2
  | .reap cooldown => 0 ≤ m.value ∧ 0 < cooldown
  | _ => True

structure Modifier.WellFormed (m : Modifier ℚ) : Prop where
  scope : m.stat.accepts m.scope = true
  per : m.per = none
  target : m.target = .build
  scalable : m.unscalable = false
  additional : m.stat.onlyAdds = true → m.additional = true
  numbers : m.NumbersFit

namespace Affix

section Scope

variable {α : Type} [Number α] {m : Modifier α}

omit [Number α] in
lemma accepts_of_mem {κ ι : Type} {k : κ} {i : ι} {e : Effect α} {s : Scope} {es : List (κ × Effect α)}
    {ss : List (ι × Scope)} (he : (k, e) ∈ es) (hs : (i, s) ∈ ss)
    (hall : (es.all fun e => ss.all fun s => e.2.stat.accepts s.2) = true) : e.stat.accepts s = true :=
  List.all_eq_true.mp (List.all_eq_true.mp hall _ he) _ hs

lemma Sentence.scopeAccepted {words : List String} (h : Sentence words m) : m.scopeAccepted = true := by
  cases h with
  | damage h => rfl
  | scopedDamage h s => cases s <;> rfl
  | phrase h he => exact accepts_of_mem he (List.mem_singleton_self ((), Scope.global)) rfl
  | critical h hs he => exact accepts_of_mem he hs rfl
  | resistance h he hs => exact accepts_of_mem he hs rfl
  | attributePoints h ha => rfl
  | attributePercent h ha => rfl
  | flatDamage hx hy type hs => exact accepts_of_mem (List.mem_singleton_self ((), Effect.flatDamage type _ _)) hs rfl
  | maxSpellBurst h => rfl
  | ingenuityOverload h => rfl
  | reap h hc hpos => rfl

end Scope

variable {m : Modifier ℚ} {words : List String}

lemma onlyAdds_of_mem {κ : Type} {k : κ} {e : Effect ℚ} {es : List (κ × Effect ℚ)} (he : (k, e) ∈ es)
    (hall : (es.all fun e => !e.2.stat.onlyAdds) = true) : e.stat.onlyAdds = false :=
  (Bool.not_eq_true' _).mp (List.all_eq_true.mp hall _ he)

lemma numbersFit_of_not_onlyAdds (h : m.stat.onlyAdds = false) : m.NumbersFit := by
  unfold Modifier.NumbersFit
  split
  · next heffect =>
    rw [Modifier.stat, heffect] at h
    cases h
  · next heffect =>
    rw [Modifier.stat, heffect] at h
    cases h
  · trivial

lemma Sentence.adds (h : Sentence words m) : m.stat.onlyAdds = false ∨ m.additional = true := by
  cases h with
  | damage h => exact .inl rfl
  | scopedDamage h s => exact .inl rfl
  | phrase h he => exact .inl (onlyAdds_of_mem he rfl)
  | critical h hs he => exact .inl (onlyAdds_of_mem he rfl)
  | resistance h he hs => exact .inr rfl
  | attributePoints h ha => exact .inr rfl
  | attributePercent h ha => exact .inl rfl
  | flatDamage hx hy type hs => exact .inr rfl
  | maxSpellBurst h => exact .inr rfl
  | ingenuityOverload h => exact .inr rfl
  | reap h hc hpos => exact .inr rfl

lemma Sentence.numbersFit (h : Sentence words m) : m.NumbersFit := by
  cases h with
  | damage h => trivial
  | scopedDamage h s => trivial
  | phrase h he => exact numbersFit_of_not_onlyAdds (onlyAdds_of_mem he rfl)
  | critical h hs he => exact numbersFit_of_not_onlyAdds (onlyAdds_of_mem he rfl)
  | resistance h he hs =>
    rcases List.mem_pair.mp he with heq | heq
    all_goals
      obtain ⟨-, rfl⟩ := Prod.mk.inj heq
      trivial
  | attributePoints h ha => trivial
  | attributePercent h ha => trivial
  | flatDamage hx hy type hs => exact ⟨hx.nonneg, hy.nonneg, rfl⟩
  | maxSpellBurst h => trivial
  | ingenuityOverload h => trivial
  | reap h hc hpos => exact ⟨h.nonneg, not_le.mp hpos⟩

lemma Sentence.unbound (h : Sentence words m) : m.per = none ∧ m.target = .build ∧ m.unscalable = false := by
  cases h <;> exact ⟨rfl, rfl, rfl⟩

theorem wellFormed_of_parse {text : String} (h : parse text = some m) : m.WellFormed := by
  have hsentence := sentence_of_parse h
  obtain ⟨hper, htarget, hscalable⟩ := hsentence.unbound
  exact {
    scope := hsentence.scopeAccepted
    per := hper
    target := htarget
    scalable := hscalable
    additional := fun honly => hsentence.adds.resolve_left (ne_false_of_eq_true honly)
    numbers := hsentence.numbersFit }

theorem reaping_wellFormed :
    parse "Reaps 0.5 s of Damage Over Time. The effect has a 2 s cooldown" =
        some { effect := .reap 2, value := 1 / 2, additional := true : Modifier ℚ } ∧
      Modifier.WellFormed { effect := .reap 2, value := 1 / 2, additional := true } := by
  have hread : parse "Reaps 0.5 s of Damage Over Time. The effect has a 2 s cooldown" =
      some { effect := .reap 2, value := 1 / 2, additional := true : Modifier ℚ } := by decide +kernel
  exact ⟨hread, wellFormed_of_parse hread⟩

end Affix
end CharacterBuild
