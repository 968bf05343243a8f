import Mathlib
import CharacterBuild.GameData.Basic
import CharacterBuild.Proofs.Scan

namespace CharacterBuild

section Entries

variable {β φ : Type} (name : β → String) (own : β → Option φ) (taken : β → φ)

structure SoundTable (bs : List β) : Prop where
  own : ∀ b ∈ bs, own b = none
  names : (bs.map name).Nodup

inductive FirstOffence (bs : List β) : φ → Prop
  | own {before after : List β} {b : β} {f : φ} (hbs : bs = before ++ b :: after) (hbefore : SoundTable name own before)
      (h : own b = some f) : FirstOffence bs f
  | taken {before after : List β} {b : β} (hbs : bs = before ++ b :: after) (hbefore : SoundTable name own before)
      (hown : own b = none) (h : ∃ r ∈ before, name r = name b) : FirstOffence bs (taken b)

def entryFault? (before : List β) (b : β) : Option φ :=
  own b <|> if name b ∈ before.map name then some (taken b) else none

variable {name own taken} {before bs : List β} {b : β} {f : φ}

lemma entryFault?_of_own (h : own b = some f) : entryFault? name own taken before b = some f := by
  rw [entryFault?, h]
  rfl

lemma entryFault?_of_none (h : own b = none) :
    entryFault? name own taken before b = if name b ∈ before.map name then some (taken b) else none := by
  rw [entryFault?, h]
  rfl

lemma entryFault?_eq_none_iff :
    entryFault? name own taken before b = none ↔ own b = none ∧ name b ∉ before.map name := by
  cases h : own b with
  | some f => simp [entryFault?_of_own h]
  | none => simp [entryFault?_of_none h]

lemma allPass_iff_soundTable : AllPass (entryFault? name own taken) [] bs ↔ SoundTable name own bs := by
  have hstart : (([] : List β).map name).Nodup := List.nodup_nil
  rw [allPass_iff_nodup (fun _ _ => entryFault?_eq_none_iff) hstart]
  exact ⟨fun ⟨hown, hnames⟩ => ⟨hown, hnames⟩, fun h => ⟨h.own, h.names⟩⟩

lemma scan?_entries_eq_none_iff : scan? (entryFault? name own taken) [] bs = none ↔ SoundTable name own bs :=
  scan?_eq_none_iff.trans allPass_iff_soundTable

lemma scan?_entries_eq_some_iff :
    scan? (entryFault? name own taken) [] bs = some f ↔ FirstOffence name own taken bs f := by
  simp only [scan?_eq_some_iff, allPass_iff_soundTable, List.nil_append]
  constructor
  · rintro ⟨before, b, after, hbs, hbefore, hb⟩
    cases hown : own b with
    | some g =>
      rw [entryFault?_of_own hown] at hb
      exact .own hbs hbefore (hown.trans hb)
    | none =>
      rw [entryFault?_of_none hown, Option.ite_none_right_eq_some] at hb
      obtain ⟨hmem, hb⟩ := hb
      obtain rfl := Option.some.inj hb
      exact .taken hbs hbefore hown (List.mem_map.mp hmem)
  · rintro (⟨hbs, hbefore, h⟩ | ⟨hbs, hbefore, hown, h⟩)
    · exact ⟨_, _, _, hbs, hbefore, entryFault?_of_own h⟩
    · refine ⟨_, _, _, hbs, hbefore, ?_⟩
      rw [entryFault?_of_none hown, if_pos (List.mem_map.mpr h)]

structure NamePass (name : β → String) (own : β → Option φ) (taken : β → φ)
    (told? : List String → List β → Option φ) : Prop where
  nil : ∀ seen, told? seen [] = none
  cons : ∀ seen b bs, told? seen (b :: bs) =
    (own b <|> (if name b ∈ seen then some (taken b) else none) <|> told? (name b :: seen) bs)

namespace NamePass

variable {told? : List String → List β → Option φ} {seen : List String}

lemma eq_scan (hpass : NamePass name own taken told?) (h : ∀ n, n ∈ seen ↔ n ∈ before.map name) :
    told? seen bs = scan? (entryFault? name own taken) before bs := by
  induction bs generalizing seen before with
  | nil => exact hpass.nil seen
  | cons b bs ih =>
    have hseen : ∀ n, n ∈ name b :: seen ↔ n ∈ (before ++ [b]).map name := by
      intro n
      simp [h, or_comm]
    rw [hpass.cons, scan?, ih hseen, entryFault?]
    simp only [h, Option.orElse_eq_orElse, Option.orElse_eq_or, Option.or_assoc]

lemma eq_scan_nil (hpass : NamePass name own taken told?) (bs : List β) :
    told? [] bs = scan? (entryFault? name own taken) [] bs :=
  hpass.eq_scan fun _ => Iff.rfl

lemma eq_none_iff (hpass : NamePass name own taken told?) : told? [] bs = none ↔ SoundTable name own bs := by
  rw [hpass.eq_scan_nil, scan?_entries_eq_none_iff]

lemma eq_some_iff (hpass : NamePass name own taken told?) :
    told? [] bs = some f ↔ FirstOffence name own taken bs f := by
  rw [hpass.eq_scan_nil, scan?_entries_eq_some_iff]

end NamePass
end Entries

variable {α : Type}

def Skill.nameTaken (s : Skill α) : SkillFault :=
  .duplicate s.name

lemma Skill.namePass [Number α] : NamePass (name : Skill α → String) fault? nameTaken firstFault? :=
  ⟨fun _ => rfl, fun _ _ _ => rfl⟩

lemma Template.namePass (duplicate : TemplateFault α) :
    NamePass (name : Template α → String) fault? (fun _ => duplicate) (firstFault? duplicate) :=
  ⟨fun _ => rfl, fun _ _ _ => rfl⟩

end CharacterBuild
