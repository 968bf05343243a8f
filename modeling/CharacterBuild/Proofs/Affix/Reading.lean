import Mathlib
import CharacterBuild.Affix.Form
import CharacterBuild.Proofs.Affix.Grammar

namespace CharacterBuild.Affix

variable {α : Type} [Number α] {m : Modifier α} {ts lead rest : List String} {w : String} {x : α} {b : Bool}

lemma exists_rate (h : rate? ts = some (x, b, rest)) : ∃ lead, Rate lead x b ∧ ts = lead ++ rest := by
  cases ts with
  | nil => cases h
  | cons w ts =>
    obtain ⟨y, hy, h⟩ := Option.bind_eq_some_iff.mp h
    have hp := percent?_eq_some_iff.mp hy
    split at h
    · obtain ⟨rfl, rfl, rfl⟩ := h
      exact ⟨_, .additional hp, rfl⟩
    · obtain ⟨rfl, rfl, rfl⟩ := h
      exact ⟨_, .bare hp, rfl⟩

lemma Rate.rate?_append (h : Rate lead x b) (hrest : rest.head? ≠ some "additional") :
    rate? (lead ++ rest) = some (x, b, rest) := by
  cases h with
  | bare h =>
    refine Option.bind_eq_some_iff.mpr ⟨x, percent?_eq_some_iff.mpr h, ?_⟩
    split
    · next heq =>
      subst heq
      exact absurd rfl hrest
    · rfl
  | additional h => exact Option.bind_eq_some_iff.mpr ⟨x, percent?_eq_some_iff.mpr h, rfl⟩

namespace Form

lemma damage_words (hread : damage.read? ts = some m) :
    ∃ lead x b, Rate lead x b ∧
      (ts = lead ++ ["damage"] ∧ m = { effect := .damage, value := x, additional := b } ∨
        ∃ w s, ts = lead ++ [w, "damage"] ∧ Named.ofWord? w = some s ∧
          m = { effect := .damage, value := x, scope := s, additional := b }) := by
  obtain ⟨⟨x, b, rest⟩, hrate, h⟩ := Option.bind_eq_some_iff.mp hread
  obtain ⟨lead, hlead, rfl⟩ := exists_rate hrate
  refine ⟨lead, x, b, hlead, ?_⟩
  dsimp only at h
  split at h
  · exact .inl ⟨rfl, (Option.some.inj h).symm⟩
  · obtain ⟨s, hs, h⟩ := Option.bind_eq_some_iff.mp h
    exact .inr ⟨_, s, rfl, hs, (Option.some.inj h).symm⟩
  · cases h

lemma phrase_words {name : String} {e : Effect α} {wording : List String}
    (hread : (phrase name e wording).read? ts = some m) :
    ∃ lead x b, Rate lead x b ∧ ts = lead ++ wording ∧ m = { effect := e, value := x, additional := b } := by
  obtain ⟨⟨x, b, rest⟩, hrate, h⟩ := Option.bind_eq_some_iff.mp hread
  obtain ⟨lead, hlead, rfl⟩ := exists_rate hrate
  obtain ⟨_, hguard, hm⟩ := Option.bind_eq_some_iff.mp h
  have hrest := (Option.guard_eq_some' _).mp hguard
  exact ⟨lead, x, b, hlead, by rw [hrest], (Option.some.inj hm).symm⟩

lemma critical_words {name last : String} {e : Effect α} (hread : (critical name e last).read? ts = some m) :
    ∃ lead x b ws s, Rate lead x b ∧ (ws, s) ∈ criticalScopes ∧ ts = lead ++ ws ++ ["critical", "strike", last] ∧
      m = { effect := e, value := x, scope := s, additional := b } := by
  obtain ⟨⟨x, b, rest⟩, hrate, h⟩ := Option.bind_eq_some_iff.mp hread
  obtain ⟨lead, hlead, rfl⟩ := exists_rate hrate
  obtain ⟨_, hguard, hm⟩ := Option.bind_eq_some_iff.mp h
  have hrest := (Option.guard_eq_some' _).mp hguard
  obtain rfl := Option.some.inj hm
  split at hrest
  · exact ⟨lead, x, b, ["attack"], .attack, hlead, by simp [criticalScopes], by simp [← hrest], rfl⟩
  · exact ⟨lead, x, b, ["spell"], .spell, hlead, by simp [criticalScopes], by simp [← hrest], rfl⟩
  · exact ⟨lead, x, b, [], .global, hlead, by simp [criticalScopes], by simp [← hrest], rfl⟩

lemma resistance_words (hread : resistance.read? ts = some m) :
    ∃ w v ws x s e, IsPercent w x ∧ (ws, e) ∈ resistanceEffects ∧ resistanceScope? v = some s ∧
      e.stat.accepts s = true ∧ ts = w :: ws ++ [v, "resistance"] ∧
      m = { effect := e, value := x, scope := s, additional := true } := by
  cases ts with
  | nil => cases hread
  | cons w rest =>
    obtain ⟨x, hx, h⟩ := Option.bind_eq_some_iff.mp hread
    have hp := percent?_eq_some_iff.mp hx
    split at h
    case h_3 => cases h
    all_goals
      obtain ⟨_, hkind, h⟩ := Option.bind_eq_some_iff.mp h
      obtain rfl := Option.some.inj hkind
      obtain ⟨s, hs, h⟩ := Option.bind_eq_some_iff.mp h
      obtain ⟨_, hguard, hm⟩ := Option.bind_eq_some_iff.mp h
      have hacc := (Option.guard_eq_some' _).mp hguard
    · exact ⟨w, _, ["max"], x, s, _, hp, by simp [resistanceEffects], hs, hacc, rfl, (Option.some.inj hm).symm⟩
    · exact ⟨w, _, [], x, s, _, hp, by simp [resistanceEffects], hs, hacc, rfl, (Option.some.inj hm).symm⟩

lemma attributes_words (hread : attributes.read? ts = some m) :
    (∃ w v x a, IsSigned w x ∧ Attribute.ofWord? v = some a ∧ ts = [w, v] ∧
        m = { effect := .attributePoints a, value := x, additional := true }) ∨
      ∃ lead v x b a, Rate lead x b ∧ Attribute.ofWord? v = some a ∧ ts = lead ++ [v] ∧
        m = { effect := .attributePercent a, value := x, additional := b } := by
  unfold attributes at hread
  dsimp only at hread
  split at hread
  on_goal 1 => split at hread
  · next x hx =>
    obtain ⟨a, ha, hm⟩ := Option.bind_eq_some_iff.mp hread
    exact .inl ⟨_, _, x, a, signed?_eq_some_iff.mp hx, ha, rfl, (Option.some.inj hm).symm⟩
  -- without a plain number in front the line is read as a percentage, however many words it has
  all_goals
    obtain ⟨⟨x, b, rest⟩, hrate, h⟩ := Option.bind_eq_some_iff.mp hread
    obtain ⟨lead, hlead, hts⟩ := exists_rate hrate
    dsimp only at h
    split at h
    · obtain ⟨a, ha, hm⟩ := Option.bind_eq_some_iff.mp h
      exact .inr ⟨lead, _, x, b, a, hlead, ha, hts, (Option.some.inj hm).symm⟩
    · cases h

lemma flatDamage_words (hread : flatDamage.read? ts = some m) :
    ∃ v w u ws x y s type, IsAmount v x ∧ IsAmount w y ∧ Named.ofWord? u = some type ∧ (ws, s) ∈ flatDamageScopes ∧
      ts = ["adds", v, "-", w, u, "damage"] ++ ws ∧
      m = { effect := .flatDamage type x y, value := (x + y) / 2, scope := s, additional := true } := by
  unfold flatDamage at hread
  dsimp only at hread
  split at hread
  · next v w u ws =>
    split at hread
    case h_4 => cases hread
    all_goals
      obtain ⟨s, hs, h⟩ := Option.bind_eq_some_iff.mp hread
      obtain rfl := Option.some.inj hs
      obtain ⟨x, hx, h⟩ := Option.bind_eq_some_iff.mp h
      obtain ⟨y, hy, h⟩ := Option.bind_eq_some_iff.mp h
      obtain ⟨type, htype, hm⟩ := Option.bind_eq_some_iff.mp h
      exact ⟨v, w, u, _, x, y, _, type, amount?_eq_some_iff.mp hx, amount?_eq_some_iff.mp hy, htype,
        by simp [flatDamageScopes], rfl, (Option.some.inj hm).symm⟩
  · cases hread

lemma maxSpellBurst_words (hread : maxSpellBurst.read? ts = some m) :
    ∃ w x, IsSigned w x ∧ ts = [w, "max", "spell", "burst"] ∧
      m = { effect := .maxSpellBurst, value := x, additional := true } := by
  unfold maxSpellBurst at hread
  dsimp only at hread
  split at hread
  · obtain ⟨x, hx, hm⟩ := Option.bind_eq_some_iff.mp hread
    exact ⟨_, x, signed?_eq_some_iff.mp hx, rfl, (Option.some.inj hm).symm⟩
  · cases hread

lemma ingenuityOverload_words (hread : ingenuityOverload.read? ts = some m) :
    ∃ w x, IsPercent w x ∧ ts = ["ingenuity", "overload", "deals", w, "of", "spell", "burst", "damage"] ∧
      m = { effect := .ingenuityOverload, value := x, additional := true } := by
  unfold ingenuityOverload at hread
  dsimp only at hread
  split at hread
  · obtain ⟨x, hx, hm⟩ := Option.bind_eq_some_iff.mp hread
    exact ⟨_, x, percent?_eq_some_iff.mp hx, rfl, (Option.some.inj hm).symm⟩
  · cases hread

lemma reap_words (hread : reap.read? ts = some m) :
    ∃ w tail x, IsAmount w x ∧ ¬ (cooldown? tail).getD (1 : α) ≤ 0 ∧
      ts = ["reaps", w, "s", "of", "damage", "over", "time"] ++ tail ∧
      m = { effect := .reap ((cooldown? tail).getD 1), value := x, additional := true } := by
  unfold reap at hread
  dsimp only at hread
  split at hread
  · obtain ⟨x, hx, h⟩ := Option.bind_eq_some_iff.mp hread
    obtain ⟨_, hguard, hm⟩ := Option.bind_eq_some_iff.mp h
    exact ⟨_, _, x, amount?_eq_some_iff.mp hx, (Option.guard_eq_some' _).mp hguard, rfl, (Option.some.inj hm).symm⟩
  · cases hread

end Form
end CharacterBuild.Affix
