import Mathlib
import CharacterBuild.Proofs.Affix.Word
import CharacterBuild.Proofs.Text.Split

namespace CharacterBuild

namespace Text

lemma words_intercalate {css : List (List Char)} (hne : ∀ cs ∈ css, cs ≠ [])
    (h : ∀ cs ∈ css, ∀ c ∈ cs, isBlank c = false) : words ([' '].intercalate css) = css := by
  by_cases hcss : css = []
  · rw [hcss]
    rfl
  · rw [words, splitOn_intercalate hcss h (by decide)]
    exact List.filter_eq_self.mpr fun cs hcs => by simpa using hne cs hcs

end Text

namespace Affix

open Text

variable {c : Char} {w : String} {ws : List String}

def IsVisible (c : Char) : Prop :=
  33 ≤ c.toNat ∧ c.toNat ≤ 126

instance : DecidablePred IsVisible := fun _ =>
  inferInstanceAs (Decidable (_ ∧ _))

lemma IsVisible.toLower (h : IsVisible c) : IsVisible c.toLower := by
  have hsame : IsVisible c.toLower = IsVisible c := apply_toLower (by decide +kernel) c
  rwa [hsame]

lemma IsVisible.isBlank_eq (h : IsVisible c) : isBlank c = false := by
  obtain ⟨_, _⟩ := h
  simp only [isBlank, Bool.or_eq_false_iff, Bool.and_eq_false_iff, decide_eq_false_iff_not, beq_eq_false_iff_ne]
  omega

def heard (w : String) : String :=
  .ofList (dropTail isMark (w.toList.map Char.toLower))

structure IsWord (w : String) : Prop where
  chars : ∀ c ∈ w.toList, IsVisible c
  heard_ne : heard w ≠ ""

structure IsPlainWord (w : String) : Prop extends IsWord w where
  heard_eq : heard w = w

instance (w : String) : Decidable (IsWord w) :=
  decidable_of_iff (w.toList.all (IsVisible ·) = true ∧ heard w ≠ "")
    ⟨fun h => ⟨by simpa using h.1, h.2⟩, fun h => ⟨by simpa using h.chars, h.heard_ne⟩⟩

instance (w : String) : Decidable (IsPlainWord w) :=
  decidable_of_iff (IsWord w ∧ heard w = w) ⟨fun h => ⟨h.1, h.2⟩, fun h => ⟨h.toIsWord, h.heard_eq⟩⟩

lemma tokens_intercalate (h : ∀ w ∈ ws, IsWord w) : tokens (" ".intercalate ws) = ws.map heard := by
  have hline : (" ".intercalate ws).toList = [' '].intercalate (ws.map String.toList) := String.toList_intercalate
  have hascii : ∀ c ∈ [' '].intercalate (ws.map String.toList), c.toNat < 0x80 := by
    intro c hc
    rcases mem_intercalate hc with rfl | ⟨cs, hcs, hmem⟩
    · decide
    · obtain ⟨w, hw, rfl⟩ := List.mem_map.mp hcs
      exact ((h w hw).chars c hmem).2.trans_lt (by decide)
  have hlower : lower (" ".intercalate ws).toList = [' '].intercalate (ws.map fun w => w.toList.map Char.toLower) := by
    rw [lower, hline, lowerBehind_of_ascii hascii, map_intercalate, List.map_map]
    rfl
  have hwords : words (lower (" ".intercalate ws).toList) = ws.map fun w => w.toList.map Char.toLower := by
    rw [hlower]
    refine words_intercalate ?_ ?_
    all_goals
      intro cs hcs
      obtain ⟨w, hw, rfl⟩ := List.mem_map.mp hcs
    · intro hnil
      exact (h w hw).heard_ne (by rw [heard, hnil]; rfl)
    · intro c hc
      obtain ⟨c, hmem, rfl⟩ := List.mem_map.mp hc
      exact ((h w hw).chars c hmem).toLower.isBlank_eq
  rw [tokens, hwords, List.map_map, List.filterMap_map, List.filterMap_eq_map_iff_forall_eq_some]
  intro w hw
  have hne : dropTail isMark (w.toList.map Char.toLower) ≠ [] := by
    intro hnil
    exact (h w hw).heard_ne (by rw [heard, hnil])
  exact if_neg (by simpa using hne)

lemma map_heard (h : ∀ w ∈ ws, IsPlainWord w) : ws.map heard = ws :=
  (List.map_congr_left fun w hw => (h w hw).heard_eq).trans (List.map_id _)

end Affix
end CharacterBuild
