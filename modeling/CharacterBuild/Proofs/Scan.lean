import Mathlib

/-! Lists checked from their heads: an entry is checked with those before it in view, and the first that fails is told of.
Where no two entries share a key, a key finds its entry. -/

namespace CharacterBuild

variable {β κ φ : Type} {check : List β → β → Option φ} {before bs : List β} {b : β} {f : φ}

def scan? (check : List β → β → Option φ) : List β → List β → Option φ
  | _, [] => none
  | before, b :: bs => check before b <|> scan? check (before ++ [b]) bs

def AllPass (check : List β → β → Option φ) (before bs : List β) : Prop :=
  ∀ mid b after, bs = mid ++ b :: after → check (before ++ mid) b = none

lemma allPass_nil : AllPass check before [] := by
  intro mid b after h
  simp at h

lemma allPass_cons : AllPass check before (b :: bs) ↔ check before b = none ∧ AllPass check (before ++ [b]) bs := by
  constructor
  · intro h
    refine ⟨?_, fun mid c after hbs => ?_⟩
    · simpa using h [] b bs rfl
    · simpa using h (b :: mid) c after (by rw [hbs]; rfl)
  · rintro ⟨hb, hbs⟩ mid c after h
    cases mid with
    | nil =>
      obtain ⟨rfl, rfl⟩ := List.cons.inj h
      simpa using hb
    | cons d mid =>
      obtain ⟨rfl, hrest⟩ := List.cons.inj h
      simpa using hbs mid c after hrest

lemma exists_split_cons {P : List β → β → Prop} :
    (∃ mid c after, b :: bs = mid ++ c :: after ∧ P mid c) ↔
      P [] b ∨ ∃ mid c after, bs = mid ++ c :: after ∧ P (b :: mid) c := by
  constructor
  · rintro ⟨mid, c, after, h, hc⟩
    cases mid with
    | nil =>
      obtain ⟨rfl, rfl⟩ := List.cons.inj h
      exact .inl hc
    | cons d mid =>
      obtain ⟨rfl, rfl⟩ := List.cons.inj h
      exact .inr ⟨mid, c, after, rfl, hc⟩
  · rintro (hb | ⟨mid, c, after, rfl, hc⟩)
    · exact ⟨[], b, bs, rfl, hb⟩
    · exact ⟨b :: mid, c, after, rfl, hc⟩

lemma scan?_cons_of_none (h : check before b = none) : scan? check before (b :: bs) = scan? check (before ++ [b]) bs := by
  rw [scan?, h]
  rfl

lemma scan?_cons_of_some (h : check before b = some f) : scan? check before (b :: bs) = some f := by
  rw [scan?, h]
  rfl

lemma scan?_eq_none_iff : scan? check before bs = none ↔ AllPass check before bs := by
  induction bs generalizing before with
  | nil => exact iff_of_true rfl allPass_nil
  | cons b bs ih =>
    rw [allPass_cons, ← ih]
    cases hb : check before b with
    | none => simp [scan?_cons_of_none hb]
    | some g => simp [scan?_cons_of_some hb]

lemma scan?_eq_some_iff : scan? check before bs = some f ↔
    ∃ mid b after, bs = mid ++ b :: after ∧ AllPass check before mid ∧ check (before ++ mid) b = some f := by
  -- over the entries still to be checked; one that passes joins those in view
  induction bs generalizing before with
  | nil => simp [scan?]
  | cons b bs ih =>
    rw [exists_split_cons, List.append_nil]
    cases hb : check before b with
    | none => simp [scan?_cons_of_none hb, ih, allPass_cons, hb]
    | some g => simp [scan?_cons_of_some hb, allPass_nil, allPass_cons, hb]

lemma allPass_iff_nodup {sound : β → Prop} {key : β → κ}
    (h : ∀ before b, check before b = none ↔ sound b ∧ key b ∉ before.map key) (hb : (before.map key).Nodup) :
    AllPass check before bs ↔ (∀ b ∈ bs, sound b) ∧ ((before ++ bs).map key).Nodup := by
  induction bs generalizing before with
  | nil => exact iff_of_true allPass_nil (by simpa using hb)
  | cons b bs ih =>
    have hnew : key b ∉ before.map key ↔ ((before ++ [b]).map key).Nodup := by
      rw [List.map_append, List.map_singleton, List.nodup_append_comm, List.singleton_append, List.nodup_cons,
        and_iff_left hb]
    rw [allPass_cons, h, List.forall_mem_cons, List.append_cons before b bs, and_assoc, and_assoc]
    apply and_congr_right
    intro _
    constructor
    · rintro ⟨hfresh, hbs⟩
      exact (ih (hnew.mp hfresh)).mp hbs
    · rintro ⟨hsound, hnodup⟩
      have hfirst : ((before ++ [b]).map key).Nodup := hnodup.sublist ((List.sublist_append_left _ _).map _)
      exact ⟨hnew.mpr hfirst, (ih hfirst).mpr ⟨hsound, hnodup⟩⟩

lemma find?_eq_some_iff_of_nodup [DecidableEq κ] {key : β → κ} {k : κ} (h : (bs.map key).Nodup) :
    bs.find? (key · = k) = some b ↔ b ∈ bs ∧ key b = k := by
  constructor
  · intro hb
    exact ⟨List.mem_of_find?_eq_some hb, by simpa using List.find?_some hb⟩
  · rintro ⟨hb, rfl⟩
    have hsome : (bs.find? (key · = key b)).isSome := List.find?_isSome.mpr ⟨b, hb, by simp⟩
    obtain ⟨c, hc⟩ := Option.isSome_iff_exists.mp hsome
    have hkey : key c = key b := by simpa using List.find?_some hc
    rw [hc, List.inj_on_of_nodup_map h (List.mem_of_find?_eq_some hc) hb hkey]

lemma find?_bind_of_forall₂ [DecidableEq κ] {γ : Type} {R : β → β → Prop} {xs ys : List β} {key : β → κ}
    {value : β → Option γ} (h : List.Forall₂ R xs ys) (hR : ∀ x y, R x y → key x = key y ∧ value x = value y) (k : κ) :
    (xs.find? (key · = k)).bind value = (ys.find? (key · = k)).bind value := by
  induction h with
  | nil => rfl
  | cons hxy _ ih =>
    obtain ⟨hkey, hvalue⟩ := hR _ _ hxy
    rw [List.find?_cons, List.find?_cons, hkey]
    split
    · exact hvalue
    · exact ih

end CharacterBuild
