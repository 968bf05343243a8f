import Mathlib
import CharacterBuild.Text.Space

namespace CharacterBuild.Text

variable {β : Type} {c : Char} {cs : List Char}

def firstWord (s : String) : String :=
  .ofList ((s.toList.dropWhile isBlank).takeWhile (!isBlank ·))

lemma head?_splitOn (p : β → Bool) (as : List β) : (splitOn p as).head? = some (as.takeWhile (!p ·)) := by
  induction as with
  | nil => rfl
  | cons a as ih =>
    rw [splitOn]
    cases ha : p a with
    | true => simp [ha]
    | false =>
      cases hpieces : splitOn p as with
      | nil => exact absurd hpieces (splitOn_ne_nil p as)
      | cons piece rest =>
        rw [hpieces] at ih
        simp [ha, Option.some.inj ih]

lemma words_cons_of_blank (h : isBlank c = true) : words (c :: cs) = words cs := by
  rw [words, splitOn, if_pos h]
  rfl

lemma head?_words_of_not_blank (h : isBlank c = false) :
    (words (c :: cs)).head? = some ((c :: cs).takeWhile (!isBlank ·)) := by
  have hhead := head?_splitOn isBlank (c :: cs)
  cases hpieces : splitOn isBlank (c :: cs) with
  | nil => exact absurd hpieces (splitOn_ne_nil _ _)
  | cons piece rest =>
    rw [hpieces] at hhead
    obtain rfl := Option.some.inj hhead
    rw [words, hpieces]
    simp [h]

lemma head?_words (cs : List Char) : (words cs).head? =
    if ∀ c ∈ cs, isBlank c = true then none else some ((cs.dropWhile isBlank).takeWhile (!isBlank ·)) := by
  induction cs with
  | nil => simp [words, splitOn]
  | cons c cs ih =>
    cases h : isBlank c with
    | true =>
      rw [words_cons_of_blank h, ih, List.dropWhile_cons_of_pos h]
      simp [h]
    | false =>
      rw [head?_words_of_not_blank h, List.dropWhile_cons_of_neg (by simp [h]), if_neg (by simp [h])]

end CharacterBuild.Text
