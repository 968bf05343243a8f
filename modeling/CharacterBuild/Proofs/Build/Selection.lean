import Mathlib

namespace CharacterBuild

variable {τ : Type} {keep keep' : List τ → τ → Prop} [∀ before, DecidablePred (keep before)]
  [∀ before, DecidablePred (keep' before)] {x : τ} {xs ys : List τ}

def selected (keep : List τ → τ → Prop) [∀ before, DecidablePred (keep before)] (xs : List τ) : List τ :=
  ((xs.inits.zip xs).filter fun e => keep e.1 e.2).map (·.2)

lemma selected_nil : selected keep [] = [] :=
  rfl

lemma selected_cons : selected keep (x :: xs) =
    if keep [] x then x :: selected (fun before => keep (x :: before)) xs
    else selected (fun before => keep (x :: before)) xs := by
  have hrest : (((xs.inits.map (x :: ·)).zip xs).filter fun e => keep e.1 e.2).map (·.2) =
      selected (fun before => keep (x :: before)) xs := by
    rw [List.zip_map_left, List.filter_map, List.map_map]
    rfl
  rw [selected, List.inits_cons, List.zip_cons_cons, List.filter_cons]
  by_cases h : keep [] x
  · rw [if_pos h, if_pos (decide_eq_true h), List.map_cons, hrest]
  · rw [if_neg h, if_neg (by simpa using h), hrest]

lemma selected_congr (h : ∀ before x, keep before x ↔ keep' before x) (xs : List τ) :
    selected keep xs = selected keep' xs := by
  simp only [selected, h]

lemma selected_append (xs ys : List τ) :
    selected keep (xs ++ ys) = selected keep xs ++ selected (fun before => keep (xs ++ before)) ys := by
  induction xs generalizing keep with
  | nil => rfl
  | cons x xs ih =>
    rw [List.cons_append, selected_cons, selected_cons, ih]
    split <;> rfl

lemma selected_concat (xs : List τ) (x : τ) :
    selected keep (xs ++ [x]) = if keep xs x then selected keep xs ++ [x] else selected keep xs := by
  rw [selected_append, selected_cons, List.append_nil, selected_nil]
  split
  · rfl
  · exact List.append_nil _

lemma selected_selected (xs : List τ) : selected keep' (selected keep xs) =
    selected (fun before x => keep before x ∧ keep' (selected keep before) x) xs := by
  -- from the end, where all that stands before the entry has been through both passes
  induction xs using List.reverseRecOn with
  | nil => rfl
  | append_singleton xs x ih =>
    rw [selected_concat, selected_concat]
    by_cases h : keep xs x
    · simp [h, selected_concat, ih]
    · simp [h, ih]

lemma filter_selected {q : τ → Bool} (h : ∀ before x, q x = true → keep before x) (xs : List τ) :
    (selected keep xs).filter q = xs.filter q := by
  induction xs using List.reverseRecOn with
  | nil => rfl
  | append_singleton xs x ih =>
    rw [selected_concat]
    split
    · rw [List.filter_append, List.filter_append, ih]
    · next hx =>
      have hq : [x].filter q = [] := List.filter_cons_of_neg fun hq => hx (h xs x hq)
      rw [List.filter_append, ih, hq, List.append_nil]

lemma selected_sublist : (selected keep xs).Sublist xs := by
  have hentries : (xs.inits.zip xs).map (·.2) = xs := List.map_snd_zip (by simp)
  conv_rhs => rw [← hentries]
  exact List.filter_sublist.map _

end CharacterBuild
