import Mathlib
import CharacterBuild.Proofs.Build.CleanUp

/-! Who gets a place. A name has one place, which its first entry takes, and places are taken in the order of the save until
there are no more of them. -/

namespace CharacterBuild

namespace CleanUp

section Keys

variable {τ κ : Type} [DecidableEq κ] {key : τ → κ} {seen : List κ} {places : ℕ} {x : τ} {xs before after : List τ}

def firstOfEach (key : τ → κ) (xs : List τ) : List τ :=
  selected (fun before x => key x ∉ before.map key) xs

lemma firsts_eq_firstOfEach (key : τ → κ) (xs : List τ) : firsts key [] xs = firstOfEach key xs := by
  rw [firsts_eq_selected, firstOfEach]
  exact selected_congr (fun before x => by simp) xs

lemma exists_firstOfEach_append_cons (h : key x ∉ before.map key) (after : List τ) :
    ∃ rest, firstOfEach key (before ++ x :: after) = firstOfEach key before ++ x :: rest := by
  rw [firstOfEach, selected_append, selected_cons, if_pos (by rwa [List.append_nil])]
  exact ⟨_, rfl⟩

lemma mem_keys_firstOfEach {k : κ} : k ∈ (firstOfEach key xs).map key ↔ k ∈ xs.map key := by
  refine ⟨fun h => (selected_sublist.map key).subset h, fun h => ?_⟩
  -- from the end: the last entry is kept just when its key is a new one
  induction xs using List.reverseRecOn with
  | nil => exact h
  | append_singleton xs x ih =>
    by_cases hk : k ∈ xs.map key
    · rw [firstOfEach, selected_append, List.map_append]
      exact List.mem_append_left _ (ih hk)
    · rw [List.map_append, List.mem_append] at h
      obtain rfl := List.mem_singleton.mp (h.resolve_left hk)
      obtain ⟨rest, hrest⟩ := exists_firstOfEach_append_cons hk []
      rw [hrest]
      simp

lemma length_firstOfEach (key : τ → κ) (xs : List τ) : (firstOfEach key xs).length = (xs.map key).dedup.length := by
  have hnodup : ((firstOfEach key xs).map key).Nodup := firsts_eq_firstOfEach key xs ▸ nodup_firsts
  have hperm : ((firstOfEach key xs).map key).Perm (xs.map key).dedup := by
    rw [List.perm_ext_iff_of_nodup hnodup (List.nodup_dedup _)]
    intro k
    rw [mem_keys_firstOfEach, List.mem_dedup]
  rw [← hperm.length_eq, List.length_map]

lemma getElem?_firstOfEach (h : key x ∉ before.map key) (after : List τ) :
    (firstOfEach key (before ++ x :: after))[(before.map key).dedup.length]? = some x := by
  obtain ⟨rest, hrest⟩ := exists_firstOfEach_append_cons h after
  rw [hrest, ← length_firstOfEach, List.getElem?_append_right le_rfl, Nat.sub_self]
  rfl

/-- The first entries of their keys, as many of them as there are places. -/
structure FirstPlaces (key : τ → κ) (places : ℕ) (xs ys : List τ) : Prop where
  eq : ys = (firstOfEach key xs).take places
  distinct : (ys.map key).Nodup
  sublist : ys.Sublist xs
  placed : ∀ before x after, xs = before ++ x :: after → key x ∉ before.map key →
    (before.map key).dedup.length < places → ys[(before.map key).dedup.length]? = some x

lemma firstPlaces_take_firsts (key : τ → κ) (places : ℕ) (xs : List τ) :
    FirstPlaces key places xs ((firsts key [] xs).take places) where
  eq := by rw [firsts_eq_firstOfEach]
  distinct := (fits_take_firsts places xs).distinct
  sublist := (List.take_sublist _ _).trans firsts_sublist
  placed before x after hxs hfirst hroom := by
    rw [List.getElem?_take_of_lt hroom, firsts_eq_firstOfEach, hxs]
    exact getElem?_firstOfEach hfirst after

end Keys

section Skills

variable {ss ss' : List SkillUse}

structure Trimmed (s s' : SkillUse) : Prop where
  name : s'.name = s.name
  level : s'.level = s.level
  enabled : s'.enabled = s.enabled
  supports : FirstPlaces (·.name) 5 s.supports s'.supports

structure SkillPlaces (ss ss' : List SkillUse) : Prop where
  kept : ∃ kept, FirstPlaces (·.name) 4 ss kept ∧ List.Forall₂ Trimmed kept ss'
  distinct : (ss'.map (·.name)).Nodup

lemma trimmed_supports (s : SkillUse) : Trimmed s { s with supports := supports s.supports } :=
  ⟨rfl, rfl, rfl, firstPlaces_take_firsts _ _ _⟩

lemma skillPlaces_skills (ss : List SkillUse) : SkillPlaces ss (skills 4 ss) where
  kept := by
    refine ⟨_, firstPlaces_take_firsts _ _ ss, ?_⟩
    rw [skills, List.forall₂_map_right_iff, List.forall₂_same]
    exact fun s _ => trimmed_supports s
  distinct := nodup_skills 4 ss

end Skills

end CleanUp

namespace Loadout

open CleanUp

theorem skills_take_first_places {α ε : Type} {fetch : Fetcher ε} {cache : TreeCache} {save : Save α}
    {l : Loadout α} (h : (ofSave fetch cache save).result = .ok l) :
    SkillPlaces save.active l.active ∧ SkillPlaces save.passive l.passive := by
  obtain ⟨talents, rfl⟩ := exists_of_ofSave h
  exact ⟨skillPlaces_skills save.active, skillPlaces_skills save.passive⟩

def repetitive : Save ℚ where
  gear := []
  talents := []
  active := [⟨"A", 1, false, [⟨"s1", 1⟩, ⟨"s1", 9⟩, ⟨"s2", 1⟩, ⟨"s3", 1⟩, ⟨"s4", 1⟩, ⟨"s2", 2⟩, ⟨"s5", 1⟩, ⟨"s6", 1⟩]⟩,
    ⟨"A", 20, true, []⟩, ⟨"B", 1, true, []⟩, ⟨"B", 2, true, []⟩, ⟨"C", 1, true, []⟩, ⟨"D", 1, true, []⟩, ⟨"E", 1, true, []⟩]
  passive := [⟨"Precise: Cruelty", 20, true, []⟩, ⟨"Precise: Cruelty", 1, true, []⟩]
  prisms := []
  rings := []
  configuration := .empty

theorem repetitive_takes_first_places : ∃ l : Loadout ℚ,
    (ofSave (fun _ => .error (LoadError.parse "")) .empty repetitive).result = .ok l ∧ l.active = [⟨"A", 1, false, [⟨"s1", 1⟩, ⟨"s2", 1⟩, ⟨"s3", 1⟩, ⟨"s4", 1⟩, ⟨"s5", 1⟩]⟩, ⟨"B", 1, true, []⟩,
      ⟨"C", 1, true, []⟩, ⟨"D", 1, true, []⟩] ∧
    SkillPlaces repetitive.active l.active ∧ SkillPlaces repetitive.passive l.passive := by
  obtain ⟨l, hl⟩ : ∃ l, (ofSave (fun _ => .error (LoadError.parse "")) .empty repetitive).result = .ok l := ⟨_, rfl⟩
  obtain ⟨hactive, hpassive⟩ := skills_take_first_places hl
  refine ⟨l, hl, ?_, hactive, hpassive⟩
  obtain rfl := Except.ok.inj hl
  decide +kernel

end Loadout
end CharacterBuild
