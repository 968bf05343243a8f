import Mathlib
import CharacterBuild.Affix.Form
import CharacterBuild.Proofs.Affix.Grammar

namespace CharacterBuild.Affix

variable {α : Type} [Number α] {ts before after : List String} {w : String} {x c : α}

lemma IsAmount.eq {y : α} (hx : IsAmount w x) (hy : IsAmount w y) : x = y := by
  rw [← amount?_eq_some_iff] at hx hy
  exact Option.some.inj (hx.symm.trans hy)

lemma cooldownBehind_cons :
    CooldownBehind before (w :: ts) x ↔
      (before = [] ∧ IsAmount w x ∧ ∃ after, ts = "s" :: "cooldown" :: after) ∨
        ∃ rest, before = w :: rest ∧ CooldownBehind rest ts x := by
  constructor
  · rintro ⟨v, after, heq, hv⟩
    cases before with
    | nil =>
      obtain ⟨rfl, rfl⟩ := List.cons.inj heq
      exact .inl ⟨rfl, hv, after, rfl⟩
    | cons u rest =>
      obtain ⟨rfl, rfl⟩ := List.cons.inj heq
      exact .inr ⟨rest, rfl, v, after, rfl, hv⟩
  · rintro (⟨rfl, hw, after, rfl⟩ | ⟨rest, rfl, v, after, rfl, hv⟩)
    · exact ⟨w, after, rfl, hw⟩
    · exact ⟨v, after, rfl, hv⟩

lemma cooldownBehind_nil_cons :
    CooldownBehind [] (w :: ts) x ↔ IsAmount w x ∧ ∃ after, ts = "s" :: "cooldown" :: after := by
  simp [cooldownBehind_cons]

lemma FirstCooldown.cons (h : FirstCooldown before ts x) (hnone : ∀ y : α, ¬ CooldownBehind [] (w :: ts) y) :
    FirstCooldown (w :: before) (w :: ts) x where
  stands := cooldownBehind_cons.mpr (.inr ⟨before, rfl, h.stands⟩)
  first before' y hy := by
    rcases cooldownBehind_cons.mp hy with ⟨rfl, _, _⟩ | ⟨rest, rfl, hrest⟩
    · exact absurd hy (hnone y)
    · exact Nat.succ_le_succ (h.first rest y hrest)

lemma FirstCooldown.eq {before' : List String} {y : α} (hx : FirstCooldown before ts x)
    (hy : FirstCooldown before' ts y) : x = y := by
  have hlen := Nat.le_antisymm (hx.first _ _ hy.stands) (hy.first _ _ hx.stands)
  obtain ⟨v, after, rfl, hv⟩ := hx.stands
  obtain ⟨w, after', heq, hw⟩ := hy.stands
  obtain ⟨_, heq⟩ := List.append_inj heq hlen
  obtain ⟨rfl, _⟩ := List.cons.inj heq
  exact hv.eq hw

lemma cooldown?_clause : (Form.cooldown? (w :: "s" :: "cooldown" :: after) : Option α) =
    (amount? w <|> Form.cooldown? ("s" :: "cooldown" :: after)) := by
  rw [Form.cooldown?, if_pos ⟨rfl, rfl⟩]

lemma cooldown?_skip (h : ∀ after, ts ≠ "s" :: "cooldown" :: after) :
    (Form.cooldown? (w :: ts) : Option α) = Form.cooldown? ts := by
  match ts with
  | [] => rfl
  | [_] => rfl
  | s :: c :: ts =>
    rw [Form.cooldown?, if_neg]
    rintro ⟨rfl, rfl⟩
    exact h ts rfl

lemma cooldown?_isSome (h : CooldownBehind before ts x) : (Form.cooldown? ts : Option α).isSome := by
  induction before generalizing ts with
  | nil =>
    obtain ⟨w, after, rfl, hw⟩ := h
    rw [List.nil_append, cooldown?_clause, amount?_eq_some_iff.mpr hw]
    rfl
  | cons u before ih =>
    obtain ⟨w, after, rfl, hw⟩ := h
    have hrest := ih ⟨w, after, rfl, hw⟩
    rw [List.cons_append]
    generalize before ++ w :: "s" :: "cooldown" :: after = rest at hrest ⊢
    by_cases hclause : ∃ after, rest = "s" :: "cooldown" :: after
    · obtain ⟨after, rfl⟩ := hclause
      rw [cooldown?_clause]
      cases (amount? u : Option α) with
      | none => exact hrest
      | some y => rfl
    · rw [cooldown?_skip (not_exists.mp hclause)]
      exact hrest

lemma exists_firstCooldown (h : Form.cooldown? ts = some x) : ∃ before, FirstCooldown before ts x := by
  induction ts with
  | nil => cases h
  | cons w ts ih =>
    by_cases hclause : ∃ after, ts = "s" :: "cooldown" :: after
    · obtain ⟨after, rfl⟩ := hclause
      rw [cooldown?_clause] at h
      cases hw : (amount? w : Option α) with
      | none =>
        rw [hw] at h
        obtain ⟨before, hbefore⟩ := ih h
        refine ⟨w :: before, hbefore.cons fun y hy => ?_⟩
        rw [amount?_eq_some_iff.mpr (cooldownBehind_nil_cons.mp hy).1] at hw
        cases hw
      | some y =>
        rw [hw] at h
        obtain rfl := Option.some.inj h
        exact ⟨[], ⟨w, after, rfl, amount?_eq_some_iff.mp hw⟩, fun _ _ _ => Nat.zero_le _⟩
    · rw [cooldown?_skip (not_exists.mp hclause)] at h
      obtain ⟨before, hbefore⟩ := ih h
      exact ⟨w :: before, hbefore.cons fun y hy => hclause (cooldownBehind_nil_cons.mp hy).2⟩

lemma cooldown_iff : Cooldown ts c ↔ (Form.cooldown? ts).getD 1 = c := by
  constructor
  · intro h
    cases h with
    | given h =>
      obtain ⟨y, hy⟩ := Option.isSome_iff_exists.mp (cooldown?_isSome h.stands)
      obtain ⟨_, hfirst⟩ := exists_firstCooldown hy
      rw [hy]
      exact hfirst.eq h
    | standard hnone =>
      cases hy : (Form.cooldown? ts : Option α) with
      | none => rfl
      | some y =>
        obtain ⟨before, hbefore⟩ := exists_firstCooldown hy
        exact absurd hbefore.stands (hnone before y)
  · rintro rfl
    cases hy : (Form.cooldown? ts : Option α) with
    | none =>
      refine .standard fun before y hbefore => ?_
      have hsome := cooldown?_isSome hbefore
      rw [hy] at hsome
      cases hsome
    | some y =>
      obtain ⟨before, hbefore⟩ := exists_firstCooldown hy
      exact .given hbefore

end CharacterBuild.Affix
