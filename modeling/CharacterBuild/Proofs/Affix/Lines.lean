import Mathlib
import CharacterBuild.Proofs.Affix.Spelling
import CharacterBuild.Proofs.Text.Split

/-! Texts of several lines. What a text says is what its lines say one after the other, wherever and however they are broken,
and lines that say nothing may stand between them. -/

namespace CharacterBuild.Affix

open Text

variable {α : Type} [Number α] {b : Char} {cs ds gap : List Char} {t u line : String} {xs ys ls : List String}

section Characters

def readLine? (cs : List Char) : Option (Modifier α) :=
  readWords forms (spokenWords cs)

lemma parse_eq_readLine? (t : String) : (parse t : Option (Modifier α)) = readLine? t.toList := by
  rw [parse, tokens_eq_spokenWords, readLine?]

lemma readLine?_nil : (readLine? [] : Option (Modifier α)) = none :=
  rfl

lemma readLine?_cons (hb : isBlank b = true) (cs : List Char) :
    (readLine? (b :: cs) : Option (Modifier α)) = readLine? cs := by
  rw [readLine?, spokenWords_cons hb, readLine?]

lemma readLine?_concat (hb : isBlank b = true) (cs : List Char) :
    (readLine? (cs ++ [b]) : Option (Modifier α)) = readLine? cs := by
  have hwords : spokenWords (cs ++ [b]) = spokenWords cs :=
    (spokenWords_append_cons hb cs []).trans (List.append_nil _)
  rw [readLine?, hwords, readLine?]

def lineModifiers (cs : List Char) : List (Modifier α) :=
  (splitOn (· == '\n') cs).filterMap readLine?

def unended (cs : List Char) : List Char :=
  if cs.getLast? = some '\r' then cs.dropLast else cs

lemma exists_lines_eq (t : String) : ∃ ended last, splitOn (· == '\n') t.toList = ended ++ [last] ∧
    lines t = (ended.map unended ++ if last.isEmpty then [] else [last]).map .ofList := by
  obtain ⟨last, ended, hpieces⟩ := List.exists_cons_of_ne_nil
    (mt List.reverse_eq_nil_iff.mp (splitOn_ne_nil (· == '\n') t.toList))
  refine ⟨ended.reverse, last, by rw [← List.reverse_cons, ← hpieces, List.reverse_reverse], ?_⟩
  rw [lines, hpieces]
  dsimp only
  split
  · rw [List.append_nil]
    rfl
  · rfl

lemma readLine?_unended (cs : List Char) : (readLine? (unended cs) : Option (Modifier α)) = readLine? cs := by
  unfold unended
  split
  · next h =>
    obtain ⟨ds, rfl⟩ := List.getLast?_eq_some_iff.mp h
    rw [List.dropLast_concat, readLine?_concat (by decide)]
  · rfl

lemma modifiers_eq_lineModifiers (t : String) : (modifiers t : List (Modifier α)) = lineModifiers t.toList := by
  obtain ⟨ended, last, hpieces, hlines⟩ := exists_lines_eq t
  have hread : (parse ∘ String.ofList : List Char → Option (Modifier α)) = readLine? := by
    funext cs
    rw [Function.comp_apply, parse_eq_readLine?, String.toList_ofList]
  have hended : (ended.map unended).filterMap readLine? = (ended.filterMap readLine? : List (Modifier α)) := by
    rw [List.filterMap_map]
    exact List.filterMap_congr fun cs _ => readLine?_unended cs
  rw [modifiers, hlines, List.filterMap_map, hread, List.filterMap_append, hended, lineModifiers, hpieces,
    List.filterMap_append]
  cases last with
  | nil => rfl
  | cons c last => rfl

lemma newline_notMem_of_mem_lines (h : line ∈ lines t) : '\n' ∉ line.toList := by
  obtain ⟨ended, last, hpieces, hlines⟩ := exists_lines_eq t
  have hpiece : ∀ piece ∈ ended ++ [last], '\n' ∉ piece := by
    intro piece hmem hnewline
    exact absurd (of_mem_splitOn (hpieces ▸ hmem) hnewline).2 (by decide)
  rw [hlines] at h
  obtain ⟨cs, hcs, rfl⟩ := List.mem_map.mp h
  rw [String.toList_ofList]
  rcases List.mem_append.mp hcs with hcs | hcs
  · obtain ⟨piece, hmem, rfl⟩ := List.mem_map.mp hcs
    unfold unended
    split
    · exact fun hnewline => hpiece piece (List.mem_append_left _ hmem) (List.mem_of_mem_dropLast hnewline)
    · exact hpiece piece (List.mem_append_left _ hmem)
  · split at hcs
    · cases hcs
    · exact hpiece cs (List.mem_append_right _ hcs)

lemma lineModifiers_append_newline (cs ds : List Char) :
    (lineModifiers (cs ++ '\n' :: ds) : List (Modifier α)) = lineModifiers cs ++ lineModifiers ds := by
  rw [lineModifiers, splitOn_append _ _ rfl, List.filterMap_append]
  rfl

lemma lineModifiers_of_line (h : '\n' ∉ cs) : (lineModifiers cs : List (Modifier α)) = (readLine? cs).toList := by
  rw [lineModifiers, splitOn_of_not fun c hc => by simpa using ne_of_mem_of_not_mem hc h]
  cases hread : (readLine? cs : Option (Modifier α)) <;> simp [hread]

lemma lineModifiers_cons (hb : isBlank b = true) (cs : List Char) :
    (lineModifiers (b :: cs) : List (Modifier α)) = lineModifiers cs := by
  rw [lineModifiers, splitOn, lineModifiers]
  cases hpieces : splitOn (· == '\n') cs with
  | nil => exact absurd hpieces (splitOn_ne_nil _ _)
  | cons piece rest =>
    split
    · rw [List.filterMap_cons, readLine?_nil]
    · rw [List.filterMap_cons, readLine?_cons hb, List.filterMap_cons]

lemma lineModifiers_concat (hb : isBlank b = true) (cs : List Char) :
    (lineModifiers (cs ++ [b]) : List (Modifier α)) = lineModifiers cs := by
  by_cases hnewline : b = '\n'
  · subst hnewline
    rw [lineModifiers_append_newline]
    exact List.append_nil _
  · have hline : ∀ c ∈ [b], (c == '\n') = false := by simpa using hnewline
    obtain ⟨pieces, last, hleft, hboth⟩ := exists_splitOn_append cs hline
    rw [lineModifiers, hboth, List.filterMap_append, lineModifiers, hleft, List.filterMap_append, List.filterMap_cons,
      readLine?_concat hb, List.filterMap_cons]

lemma lineModifiers_gap_append (hgap : ∀ c ∈ gap, isBlank c = true) (cs : List Char) :
    (lineModifiers (gap ++ cs) : List (Modifier α)) = lineModifiers cs :=
  apply_gap_append (fun _ _ hb => lineModifiers_cons hb _) hgap cs

lemma lineModifiers_append_gap (hgap : ∀ c ∈ gap, isBlank c = true) (cs : List Char) :
    (lineModifiers (cs ++ gap) : List (Modifier α)) = lineModifiers cs := by
  induction gap generalizing cs with
  | nil => rw [List.append_nil]
  | cons c gap ih =>
    rw [List.append_cons, ih fun d hd => hgap d (.tail c hd), lineModifiers_concat (hgap c (.head _))]

end Characters

structure IsBreak (gap : String) : Prop where
  blank : ∀ c ∈ gap.toList, isBlank c = true
  newline : '\n' ∈ gap.toList

instance (gap : String) : Decidable (IsBreak gap) :=
  decidable_of_iff (gap.toList.all isBlank = true ∧ '\n' ∈ gap.toList)
    ⟨fun h => ⟨by simpa using h.1, h.2⟩, fun h => ⟨by simpa using h.1, h.2⟩⟩

section Texts

@[simp] lemma modifiers_empty : (modifiers "" : List (Modifier α)) = [] :=
  rfl

lemma modifiers_append_break {gap : String} (h : IsBreak gap) (t u : String) :
    (modifiers (t ++ gap ++ u) : List (Modifier α)) = modifiers t ++ modifiers u := by
  obtain ⟨before, behind, hgap⟩ := List.append_of_mem h.newline
  have hblank := h.blank
  rw [hgap, List.forall_mem_append, List.forall_mem_cons] at hblank
  obtain ⟨hbefore, -, hbehind⟩ := hblank
  -- cut at one line feed of the break; the blanks on its sides say nothing at the end of a line or at the start of one
  have hcut : t.toList ++ gap.toList ++ u.toList = (t.toList ++ before) ++ '\n' :: (behind ++ u.toList) := by
    rw [hgap]
    simp
  simp only [modifiers_eq_lineModifiers, String.toList_append]
  rw [hcut, lineModifiers_append_newline, lineModifiers_append_gap hbefore, lineModifiers_gap_append hbehind]

lemma modifiers_intercalate (ls : List String) :
    (modifiers ("\n".intercalate ls) : List (Modifier α)) = ls.flatMap modifiers := by
  induction ls with
  | nil => simp
  | cons l ls ih =>
    cases ls with
    | nil => simp
    | cons l' ls =>
      rw [String.intercalate_cons_cons, modifiers_append_break (by decide), ih]
      rfl

lemma modifiers_of_line (h : '\n' ∉ line.toList) : (modifiers line : List (Modifier α)) = (parse line).toList := by
  rw [modifiers_eq_lineModifiers, lineModifiers_of_line h, parse_eq_readLine?]

lemma flatMap_lines (t : String) : (lines t).flatMap modifiers = (modifiers t : List (Modifier α)) := by
  rw [modifiers, List.filterMap_eq_flatMap_toList]
  exact List.flatMap_congr fun line hline => modifiers_of_line (newline_notMem_of_mem_lines hline)

end Texts

section Retelling

variable (α) in
structure IsFlavour (line : String) : Prop where
  newline_notMem : '\n' ∉ line.toList
  parse_eq_none : (parse line : Option (Modifier α)) = none

variable (α) in
/-- One change to the lines of a text: to how they are broken, or by lines of flavour among them. -/
inductive Retold : String → String → Prop
  | broken (t u : String) {gap gap' : String} (h : IsBreak gap) (h' : IsBreak gap') : Retold (t ++ gap ++ u) (t ++ gap' ++ u)
  | ended (t : String) {gap : String} (h : IsBreak gap) : Retold t (t ++ gap)
  | flavoured (xs ls ys : List String) (h : ∀ l ∈ ls, IsFlavour α l) :
      Retold ("\n".intercalate (xs ++ ys)) ("\n".intercalate (xs ++ ls ++ ys))

variable (α) in
/-- One change to a list of texts: a text is parted into its lines, joined to the next one by a break, or retold. -/
inductive Regrouped : List String → List String → Prop
  | parted (xs : List String) (t : String) (ys : List String) : Regrouped (xs ++ t :: ys) (xs ++ lines t ++ ys)
  | joined (xs : List String) (t u : String) (ys : List String) :
      Regrouped (xs ++ t :: u :: ys) (xs ++ (t ++ "\n" ++ u) :: ys)
  | retold (xs : List String) {t u : String} (ys : List String) (h : Retold α t u) : Regrouped (xs ++ t :: ys) (xs ++ u :: ys)

lemma IsFlavour.modifiers_eq (h : IsFlavour α line) : (modifiers line : List (Modifier α)) = [] := by
  rw [modifiers_of_line h.newline_notMem, h.parse_eq_none]
  rfl

lemma Retold.modifiers_eq (h : Retold α t u) : (modifiers t : List (Modifier α)) = modifiers u := by
  cases h with
  | broken t u h h' => rw [modifiers_append_break h, modifiers_append_break h']
  | ended _ h => simpa using (modifiers_append_break h t "").symm
  | flavoured xs ls ys h =>
    have hflavour : ls.flatMap modifiers = ([] : List (Modifier α)) :=
      List.flatMap_eq_nil_iff.mpr fun l hl => (h l hl).modifiers_eq
    rw [modifiers_intercalate, modifiers_intercalate, List.flatMap_append, List.flatMap_append, List.flatMap_append,
      hflavour, List.append_nil]

lemma Regrouped.flatMap_eq (h : Regrouped α xs ys) : (xs.flatMap modifiers : List (Modifier α)) = ys.flatMap modifiers := by
  cases h with
  | parted xs t ys => simp [flatMap_lines]
  | joined xs t u ys => simp [modifiers_append_break (by decide : IsBreak "\n")]
  | retold xs ys h => simp [h.modifiers_eq]

end Retelling

end CharacterBuild.Affix
