import Mathlib
import CharacterBuild.Stats.Aggregate

/-! The modifiers that count for a stat. Scopes are asked for as a set, and an entry of the pool counts in its place, once or
not at all. -/

namespace CharacterBuild

/-- The global scope is in every set of scopes, be it listed or not. -/
def SameScopes (scopes scopes' : List Scope) : Prop :=
  ∀ scope, scope ≠ .global → (scope ∈ scopes ↔ scope ∈ scopes')

variable {α : Type} {stat : Stat} {scopes scopes' : List Scope} {scope : Scope} {m : Modifier α}

def Modifier.CountsFor (m : Modifier α) (stat : Stat) (scopes : List Scope) : Prop :=
  m.stat = stat ∧ (m.scope = .global ∨ m.scope ∈ scopes)

instance : Decidable (m.CountsFor stat scopes) :=
  inferInstanceAs (Decidable (_ ∧ _))

lemma SameScopes.countsFor_iff (h : SameScopes scopes scopes') : m.CountsFor stat scopes ↔ m.CountsFor stat scopes' := by
  refine and_congr_right fun _ => or_congr_right' fun hglobal => ?_
  exact h m.scope hglobal

lemma Modifier.countsFor_rescoped (hm : m.scope ∈ .global :: scopes) (hscope : scope ∈ .global :: scopes) :
    { m with scope := scope }.CountsFor stat scopes ↔ m.CountsFor stat scopes :=
  and_congr_right fun _ => iff_of_true (List.mem_cons.mp hscope) (List.mem_cons.mp hm)

namespace Pool

lemma matching_eq (p : Pool α) (stat : Stat) (scopes : List Scope) :
    p.matching stat scopes = p.modifiers.filter (·.CountsFor stat scopes) := by
  refine List.filter_congr fun m _ => ?_
  rw [Bool.eq_iff_iff, decide_eq_true_iff, Bool.and_eq_true, Bool.or_eq_true, decide_eq_true_iff, decide_eq_true_iff,
    List.contains_iff_mem]
  rfl

lemma mem_matching {p : Pool α} : m ∈ p.matching stat scopes ↔ m ∈ p.modifiers ∧ m.CountsFor stat scopes := by
  rw [matching_eq, List.mem_filter, decide_eq_true_iff]

lemma matching_sublist (p : Pool α) (stat : Stat) (scopes : List Scope) :
    (p.matching stat scopes).Sublist p.modifiers :=
  List.filter_sublist

lemma matching_append (xs ys : List (Modifier α)) (c : Configuration) (stat : Stat) (scopes : List Scope) :
    matching ⟨xs ++ ys, c⟩ stat scopes = matching ⟨xs, c⟩ stat scopes ++ matching ⟨ys, c⟩ stat scopes :=
  List.filter_append _ _

lemma matching_cons (m : Modifier α) (xs : List (Modifier α)) (c : Configuration) (stat : Stat) (scopes : List Scope) :
    matching ⟨m :: xs, c⟩ stat scopes = (if m.CountsFor stat scopes then [m] else []) ++ matching ⟨xs, c⟩ stat scopes := by
  rw [matching_eq, matching_eq, List.filter_cons]
  by_cases h : m.CountsFor stat scopes <;> simp [h]

lemma matching_split (xs ys : List (Modifier α)) (m : Modifier α) (c : Configuration) (stat : Stat) (scopes : List Scope) :
    matching ⟨xs ++ m :: ys, c⟩ stat scopes = matching ⟨xs, c⟩ stat scopes ++
      (if m.CountsFor stat scopes then [m] else []) ++ matching ⟨ys, c⟩ stat scopes := by
  rw [matching_append, matching_cons, List.append_assoc]

lemma matching_congr (h : SameScopes scopes scopes') (p : Pool α) (stat : Stat) :
    p.matching stat scopes = p.matching stat scopes' := by
  rw [matching_eq, matching_eq]
  refine List.filter_congr fun m _ => ?_
  exact decide_eq_decide.mpr h.countsFor_iff

lemma matching_rescoped (hstat : m.stat ≠ stat) (xs ys : List (Modifier α)) (c : Configuration)
    (scopes : List Scope) :
    matching ⟨xs ++ { m with scope := scope } :: ys, c⟩ stat scopes = matching ⟨xs ++ m :: ys, c⟩ stat scopes := by
  rw [matching_split, matching_split, if_neg fun h => hstat h.1, if_neg fun h => hstat h.1]

variable [Number α]

lemma resolve_congr (h : SameScopes scopes scopes') (p : Pool α) (stat : Stat) :
    p.resolve stat scopes = p.resolve stat scopes' := by
  rw [resolve, resolve, matching_congr h]

lemma sum_congr (h : SameScopes scopes scopes') (p : Pool α) (stat : Stat) : p.sum stat scopes = p.sum stat scopes' := by
  rw [sum, sum, matching_congr h]

lemma resolve_eq_of_matching {xs ys : List (Modifier α)} {c : Configuration}
    (h : matching ⟨xs, c⟩ stat scopes = matching ⟨ys, c⟩ stat scopes) :
    resolve ⟨xs, c⟩ stat scopes = resolve ⟨ys, c⟩ stat scopes := by
  rw [resolve, resolve, h]
  rfl

lemma resolve_rescoped (hm : m.scope ∈ .global :: scopes) (hscope : scope ∈ .global :: scopes)
    (xs ys : List (Modifier α)) (c : Configuration) (stat : Stat) :
    resolve ⟨xs ++ { m with scope := scope } :: ys, c⟩ stat scopes = resolve ⟨xs ++ m :: ys, c⟩ stat scopes := by
  rw [resolve, resolve, matching_split, matching_split]
  simp only [Modifier.countsFor_rescoped hm hscope, List.foldl_append]
  by_cases hm : m.CountsFor stat scopes
  · rw [if_pos hm, if_pos hm]
    rfl
  · rw [if_neg hm, if_neg hm]
    rfl

end Pool
end CharacterBuild
