import Mathlib
import CharacterBuild.Affix.Basic
import CharacterBuild.Number.Rational
import CharacterBuild.Proofs.Affix.Word

/-! Spellings of a line. The case of ASCII letters, the blanks around words and the marks at their ends are gone from its
words, so lines that differ in nothing else are read alike. -/

namespace CharacterBuild

lemma eq_of_eqvGen {β γ : Type} {R : β → β → Prop} {f : β → γ} {x y : β} (hstep : ∀ x y, R x y → f x = f y)
    (h : Relation.EqvGen R x y) : f x = f y :=
  congrArg (Quot.lift f hstep) (Quot.eqvGen_sound h)

namespace Affix

open Text

variable {α : Type} [Number α] {b : Char} {cs ds gap marks : List Char} {t u : String}

section Words

lemma spokenWords_append_cons (hb : isBlank b = true) (cs ds : List Char) :
    spokenWords (cs ++ b :: ds) = spokenWords cs ++ spokenWords ds := by
  rw [spokenWords_eq, lower_append_cons hb, splitOn_append _ _ hb, List.filterMap_append, spokenWords_eq, spokenWords_eq]

lemma apply_gap_append {β : Type} {f : List Char → β} (h : ∀ b cs, isBlank b = true → f (b :: cs) = f cs)
    (hgap : ∀ c ∈ gap, isBlank c = true) (cs : List Char) : f (gap ++ cs) = f cs := by
  induction gap with
  | nil => rfl
  | cons c gap ih => exact (h c _ (hgap c (.head _))).trans (ih fun d hd => hgap d (.tail c hd))

lemma spokenWords_cons (hb : isBlank b = true) (cs : List Char) : spokenWords (b :: cs) = spokenWords cs :=
  spokenWords_append_cons hb [] cs

lemma spokenWords_gap_append (hgap : ∀ c ∈ gap, isBlank c = true) (ds : List Char) :
    spokenWords (gap ++ ds) = spokenWords ds :=
  apply_gap_append (fun _ _ hb => spokenWords_cons hb _) hgap ds

lemma spokenWords_append_gap_append (hne : gap ≠ []) (hgap : ∀ c ∈ gap, isBlank c = true) (cs ds : List Char) :
    spokenWords (cs ++ gap ++ ds) = spokenWords cs ++ spokenWords ds := by
  cases gap with
  | nil => exact absurd rfl hne
  | cons c gap =>
    rw [List.append_assoc, List.cons_append, spokenWords_append_cons (hgap c (.head _)),
      spokenWords_gap_append fun d hd => hgap d (.tail c hd)]

lemma isMark_iff {c : Char} : isMark c = true ↔ c = '.' ∨ c = ',' := by
  simp [isMark]

lemma bareWord?_append_marks (hmarks : ∀ c ∈ marks, isMark c = true) (cs : List Char) :
    bareWord? (cs ++ marks) = bareWord? cs := by
  have hdrop : dropTail isMark (cs ++ marks) = dropTail isMark cs := by
    rw [dropTail, List.reverse_append, List.dropWhile_append_of_pos fun c hc => hmarks c (List.mem_reverse.mp hc), dropTail]
  rw [bareWord?_eq, hdrop, bareWord?_eq]

lemma spokenWords_append_marks (hmarks : ∀ c ∈ marks, isMark c = true) (cs : List Char) :
    spokenWords (cs ++ marks) = spokenWords cs := by
  have hof : ∀ {P : Char → Prop}, P '.' → P ',' → ∀ c ∈ marks, P c := by
    intro P hpoint hcomma c hc
    rcases isMark_iff.mp (hmarks c hc) with rfl | rfl <;> assumption
  have hlower : lower (cs ++ marks) = lower cs ++ marks := by
    rw [lower, lowerBehind_append (meetsCased_of_not_cased (hof (by decide +kernel) (by decide +kernel))),
      lowerBehind_eq_self (hof (by decide) (by decide)), lower]
  obtain ⟨pieces, last, hleft, hboth⟩ :=
    exists_splitOn_append (lower cs) (hof (P := fun c => isBlank c = false) (by decide) (by decide))
  rw [spokenWords_eq, hlower, hboth, List.filterMap_append, spokenWords_eq, hleft, List.filterMap_append, List.filterMap_cons,
    bareWord?_append_marks hmarks, List.filterMap_cons]

end Words

structure IsGap (gap : String) : Prop where
  ne_empty : gap ≠ ""
  blank : ∀ c ∈ gap.toList, isBlank c = true

instance (gap : String) : Decidable (IsGap gap) :=
  decidable_of_iff (gap ≠ "" ∧ gap.toList.all isBlank = true)
    ⟨fun h => ⟨h.1, by simpa using h.2⟩, fun h => ⟨h.1, by simpa using h.2⟩⟩

@[simp] lemma tokens_empty : tokens "" = [] :=
  rfl

lemma tokens_append_gap_append {gap : String} (h : IsGap gap) (t u : String) :
    tokens (t ++ gap ++ u) = tokens t ++ tokens u := by
  have hne : gap.toList ≠ [] := fun hnil => h.ne_empty (String.toList_eq_nil_iff.mp hnil)
  simp only [tokens_eq_spokenWords, String.toList_append]
  exact spokenWords_append_gap_append hne h.blank _ _

inductive Respelled : String → String → Prop
  | letters {t u : String} (h : sameLetters t u = true) : Respelled t u
  | between (t u : String) {gap gap' : String} (h : IsGap gap) (h' : IsGap gap') :
      Respelled (t ++ gap ++ u) (t ++ gap' ++ u)
  | before (t : String) {gap : String} (h : IsGap gap) : Respelled t (gap ++ t)
  | behind (t : String) {gap : String} (h : IsGap gap) : Respelled t (t ++ gap)
  /-- Marks at the end of a word, or alone where a word may stand: a blank or nothing follows them. -/
  | marks (t u : String) {marks : String} (h : ∀ c ∈ marks.toList, isMark c = true)
      (hu : u.toList.head?.all isBlank = true) : Respelled (t ++ u) (t ++ marks ++ u)

lemma tokens_of_respelled (h : Respelled t u) : tokens t = tokens u := by
  cases h with
  | letters h =>
    rw [tokens_eq_spokenWords, spokenWords, lower_congr (beq_iff_eq.mp h), ← spokenWords, ← tokens_eq_spokenWords]
  | between t u h h' => rw [tokens_append_gap_append h, tokens_append_gap_append h']
  | before _ h => simpa using (tokens_append_gap_append h "" t).symm
  | behind _ h => simpa using (tokens_append_gap_append h t "").symm
  | marks t u h hu =>
    simp only [tokens_eq_spokenWords, String.toList_append]
    -- the marks end a piece: nothing follows them, or a blank does, at which the line is cut
    cases hrest : u.toList with
    | nil => simp [spokenWords_append_marks h]
    | cons b rest =>
      have hb : isBlank b = true := by simpa [hrest] using hu
      rw [spokenWords_append_cons hb, spokenWords_append_cons hb, spokenWords_append_marks h]

theorem parse_eq_of_respelled (h : Relation.EqvGen Respelled t u) : (parse u : Option (Modifier α)) = parse t := by
  have htokens : tokens t = tokens u := eq_of_eqvGen (fun _ _ hstep => tokens_of_respelled hstep) h
  rw [parse, ← htokens, parse]

theorem parse_respelled_reap :
    let plain := "reaps 0.5 s of damage over time ΟΔΟΣ"
    let respelled := " Reaps\u30000.5,. s of damage over TIME ΟΔΟΣ ,."
    Relation.EqvGen Respelled plain respelled ∧ (parse respelled : Option (Modifier ℚ)) = parse plain := by
  intro plain respelled
  have hmarks : ∀ c ∈ ",.".toList, isMark c = true := by simp [isMark]
  have hletters : Respelled plain "Reaps 0.5 s of damage over TIME ΟΔΟΣ" := .letters (by simp [sameLetters, plain])
  have hbetween := Respelled.between "Reaps" "0.5 s of damage over TIME ΟΔΟΣ" (by decide : IsGap " ")
    (by decide : IsGap "\u3000")
  have hnumeral := Respelled.marks "Reaps\u30000.5" " s of damage over TIME ΟΔΟΣ" hmarks rfl
  have hbehind := Respelled.behind "Reaps\u30000.5,. s of damage over TIME ΟΔΟΣ" (by decide : IsGap " ")
  have hword := Respelled.marks "Reaps\u30000.5,. s of damage over TIME ΟΔΟΣ " "" hmarks rfl
  have hbefore := Respelled.before "Reaps\u30000.5,. s of damage over TIME ΟΔΟΣ ,." (by decide : IsGap " ")
  -- the texts as they stand, so that each change begins where the last one ended
  simp only [String.reduceAppend] at hbetween hnumeral hbehind hword hbefore
  have h : Relation.EqvGen Respelled plain respelled :=
    .trans _ _ _ (.rel _ _ hletters) <| .trans _ _ _ (.rel _ _ hbetween) <| .trans _ _ _ (.rel _ _ hnumeral) <|
      .trans _ _ _ (.rel _ _ hbehind) <| .trans _ _ _ (.rel _ _ hword) (.rel _ _ hbefore)
  exact ⟨h, parse_eq_of_respelled h⟩

end Affix
end CharacterBuild
