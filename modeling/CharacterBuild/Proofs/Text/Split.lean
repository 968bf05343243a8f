import CharacterBuild.Text.Space
import Mathlib

namespace CharacterBuild.Text

variable {β : Type} {p : β → Bool} {as bs : List β} {s : β}

lemma splitOn_eq_splitOnP (p : β → Bool) (as : List β) : splitOn p as = as.splitOnP p := by
  induction as with
  | nil => rfl
  | cons a as ih =>
    rw [splitOn, List.splitOnP_cons_eq_if_modifyHead, ih]
    cases hpieces : as.splitOnP p with
    | nil => exact absurd hpieces (List.splitOnP_ne_nil p as)
    | cons piece rest => rfl

lemma splitOn_of_not (h : ∀ a ∈ as, p a = false) : splitOn p as = [as] := by
  induction as with
  | nil => rfl
  | cons a as ih =>
    rw [splitOn, if_neg (by simp [h a]), ih fun b hb => h b (.tail a hb)]

lemma of_mem_splitOn {piece : List β} {a : β} (h : piece ∈ splitOn p as) (ha : a ∈ piece) : a ∈ as ∧ p a = false := by
  have hflat : a ∈ (splitOn p as).flatten := List.mem_flatten.mpr ⟨piece, h, ha⟩
  rw [flatten_splitOn] at hflat
  simpa using List.mem_filter.mp hflat

lemma splitOn_append (as bs : List β) (hs : p s = true) :
    splitOn p (as ++ s :: bs) = splitOn p as ++ splitOn p bs := by
  induction as with
  | nil =>
    rw [List.nil_append, splitOn, splitOn, if_pos hs]
    rfl
  | cons a as ih =>
    rw [List.cons_append, splitOn, splitOn, ih]
    split
    · rfl
    · cases hpieces : splitOn p as with
      | nil => exact absurd hpieces (splitOn_ne_nil p as)
      | cons piece rest => rfl

lemma splitOn_append_cons (bs : List β) (h : ∀ a ∈ as, p a = false) (hs : p s = true) :
    splitOn p (as ++ s :: bs) = as :: splitOn p bs := by
  rw [splitOn_append as bs hs, splitOn_of_not h, List.singleton_append]

lemma exists_splitOn_append (as : List β) (h : ∀ b ∈ bs, p b = false) :
    ∃ pieces last, splitOn p as = pieces ++ [last] ∧ splitOn p (as ++ bs) = pieces ++ [last ++ bs] := by
  induction as with
  | nil => exact ⟨[], [], rfl, splitOn_of_not h⟩
  | cons a as ih =>
    obtain ⟨pieces, last, hleft, hboth⟩ := ih
    rw [List.cons_append, splitOn, splitOn, hleft, hboth]
    cases ha : p a with
    | true => exact ⟨[] :: pieces, last, rfl, rfl⟩
    | false =>
      cases pieces with
      | nil => exact ⟨[], a :: last, rfl, rfl⟩
      | cons piece pieces => exact ⟨(a :: piece) :: pieces, last, rfl, rfl⟩

lemma intercalate_cons_cons (s : β) (as bs : List β) (rest : List (List β)) :
    [s].intercalate (as :: bs :: rest) = as ++ s :: [s].intercalate (bs :: rest) := by
  simp [List.intercalate]

lemma mem_intercalate {a : β} {ass : List (List β)} (h : a ∈ [s].intercalate ass) : a = s ∨ ∃ as ∈ ass, a ∈ as := by
  induction ass with
  | nil => cases h
  | cons as rest ih =>
    cases rest with
    | nil => exact .inr ⟨as, .head _, by simpa using h⟩
    | cons bs rest =>
      rw [intercalate_cons_cons, List.mem_append, List.mem_cons] at h
      rcases h with h | h | h
      · exact .inr ⟨as, .head _, h⟩
      · exact .inl h
      · exact (ih h).imp_right fun ⟨cs, hcs, hmem⟩ => ⟨cs, .tail as hcs, hmem⟩

lemma map_intercalate {γ : Type} (f : β → γ) (ass : List (List β)) :
    ([s].intercalate ass).map f = [f s].intercalate (ass.map (·.map f)) := by
  induction ass with
  | nil => rfl
  | cons as rest ih =>
    cases rest with
    | nil => simp
    | cons bs rest =>
      rw [intercalate_cons_cons, List.map_append, List.map_cons, ih]
      simp only [List.map_cons, intercalate_cons_cons]

lemma splitOn_intercalate {ass : List (List β)} (hne : ass ≠ []) (h : ∀ as ∈ ass, ∀ a ∈ as, p a = false)
    (hs : p s = true) : splitOn p ([s].intercalate ass) = ass := by
  induction ass with
  | nil => exact absurd rfl hne
  | cons as rest ih =>
    have has := h as (.head _)
    cases rest with
    | nil => simpa using splitOn_of_not has
    | cons bs rest =>
      rw [intercalate_cons_cons, splitOn_append_cons _ has hs, ih (by simp) fun cs hcs => h cs (.tail as hcs)]

end CharacterBuild.Text
