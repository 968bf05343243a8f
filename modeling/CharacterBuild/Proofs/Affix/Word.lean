import CharacterBuild.Affix.Token
import CharacterBuild.Modifier.Scope
import CharacterBuild.Proofs.Text.Lower
import CharacterBuild.Proofs.Text.Split
import Mathlib

namespace CharacterBuild

namespace Text

def IsSmall (s : String) : Prop :=
  ∀ c ∈ s.toList, c.toLower = c

instance (s : String) : Decidable (IsSmall s) :=
  List.decidableBAll _ s.toList

lemma sameLetters_iff {s t : String} (hs : IsSmall s) (ht : IsSmall t) : sameLetters s t = true ↔ s = t := by
  have hmap : ∀ {u : String}, IsSmall u → u.toList.map Char.toLower = u.toList :=
    fun h => (List.map_congr_left h).trans (List.map_id _)
  rw [sameLetters, hmap hs, hmap ht, beq_iff_eq, String.toList_inj]

lemma mem_of_mem_dropTail {β : Type} {p : β → Bool} {as : List β} {a : β} (h : a ∈ dropTail p as) : a ∈ as := by
  rw [dropTail, List.mem_reverse] at h
  exact List.mem_reverse.mp ((List.dropWhile_sublist p).mem h)

end Text

open Text

namespace Affix

def bareWord? (cs : List Char) : Option String :=
  let bare := cs.rdropWhile fun c => c = '.' || c = ','
  if bare = [] then none else some (.ofList bare)

def spokenWords (cs : List Char) : List String :=
  ((lower cs).splitOnP (·.toNat ∈ blankCodes)).filterMap bareWord?

lemma bareWord?_eq (cs : List Char) :
    bareWord? cs = if (dropTail isMark cs).isEmpty then none else some (.ofList (dropTail isMark cs)) := by
  have hbare : (cs.rdropWhile fun c => c = '.' || c = ',') = dropTail isMark cs := rfl
  simp only [bareWord?, hbare, List.isEmpty_iff]

lemma spokenWords_eq (cs : List Char) : spokenWords cs = (splitOn isBlank (lower cs)).filterMap bareWord? := by
  have hblank : (fun c : Char => decide (c.toNat ∈ blankCodes)) = isBlank :=
    funext fun c => by rw [Bool.eq_iff_iff, decide_eq_true_iff, isBlank_iff]
  rw [splitOn_eq_splitOnP, spokenWords, hblank]

lemma tokens_eq_spokenWords (text : String) : tokens text = spokenWords text.toList := by
  rw [tokens, words, List.filterMap_map, List.filterMap_filter, spokenWords_eq]
  refine List.filterMap_congr fun cs _ => ?_
  rw [bareWord?_eq]
  cases cs <;> rfl

end Affix

lemma Affix.isSmall_of_mem_tokens {text w : String} (h : w ∈ Affix.tokens text) : IsSmall w := by
  obtain ⟨cs, hcs, hw⟩ := List.mem_filterMap.mp h
  obtain ⟨word, hword, rfl⟩ := List.mem_map.mp hcs
  split at hw
  · cases hw
  · obtain rfl := Option.some.inj hw
    intro c hc
    rw [String.toList_ofList] at hc
    have hline : c ∈ lower text.toList :=
      (of_mem_splitOn (List.mem_filter.mp hword).1 (mem_of_mem_dropTail hc)).1
    exact toLower_of_mem_lowerBehind hline

class DistinctNames (τ : Type) [Named τ] : Prop where
  mem_all : ∀ t : τ, t ∈ (Named.all : List τ)
  isSmall_name : ∀ t : τ, IsSmall (Named.name t)
  name_injective : Function.Injective (Named.name : τ → String)

lemma injective_of_ofName? {τ : Type} [Named τ] (h : ∀ t : τ, Named.ofName? (Named.name t) = some t) :
    Function.Injective (Named.name : τ → String) := by
  intro s t hst
  have hs := h s
  rw [hst, h t] at hs
  exact (Option.some.inj hs).symm

instance : DistinctNames Scope where
  mem_all t := by cases t <;> decide
  isSmall_name t := by cases t <;> decide
  name_injective := injective_of_ofName? fun t => by cases t <;> decide

instance : DistinctNames DamageType where
  mem_all t := by cases t <;> decide
  isSmall_name t := by cases t <;> decide
  name_injective := injective_of_ofName? fun t => by cases t <;> decide

lemma Named.sameLetters_of_ofWord? {τ : Type} [Named τ] {w : String} {t : τ} (h : Named.ofWord? w = some t) :
    sameLetters w (Named.name t) = true := by
  have hfound := List.find?_some h
  exact hfound

lemma Named.ofWord?_eq_some_iff {τ : Type} [Named τ] [DistinctNames τ] {w : String} {t : τ} (hw : IsSmall w) :
    Named.ofWord? w = some t ↔ w = Named.name t := by
  have hsame : ∀ s : τ, sameLetters w (Named.name s) = true ↔ w = Named.name s :=
    fun s => sameLetters_iff hw (DistinctNames.isSmall_name s)
  constructor
  · intro h
    exact (hsame t).mp (sameLetters_of_ofWord? h)
  · rintro rfl
    have hfound : (Named.ofWord? (Named.name t) : Option τ).isSome := by
      rw [Named.ofWord?, List.find?_isSome]
      exact ⟨t, DistinctNames.mem_all t, (hsame t).mpr rfl⟩
    obtain ⟨s, hs⟩ := Option.isSome_iff_exists.mp hfound
    rw [hs, DistinctNames.name_injective ((hsame s).mp (sameLetters_of_ofWord? hs))]

end CharacterBuild
