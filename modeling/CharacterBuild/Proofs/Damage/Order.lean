import Mathlib
import CharacterBuild.GameData.Bundled
import CharacterBuild.Proofs.Damage.Branch
import CharacterBuild.Proofs.Damage.Isolation
import CharacterBuild.Proofs.Pool.Order
import CharacterBuild.Proofs.Scan

/-! The order of a build's parts does not matter: in exact arithmetic an evaluation comes to the same in any order, and fails
in every order or in none. -/

namespace CharacterBuild

open Damage

namespace Pool.Reorders

variable {p q : Pool ℚ} {s : Skill ℚ} {w : Option (Weapon ℚ)} {c : Constants ℚ} {k : ℚ} {d : Delivery} {hit : Hit ℚ}
  {o : OverTime ℚ}

lemma attributeMultiplier_eq (h : p.Reorders q) (attributes : List Attribute) (perPoint : ℚ) :
    attributeMultiplier p attributes perPoint = attributeMultiplier q attributes perPoint := by
  have hpoints : attributePoints p = attributePoints q := by
    funext a
    rw [attributePoints, attributePoints, h.sum_eq, h.resolveGlobal_eq]
  rw [attributeMultiplier, attributeMultiplier, hpoints]

lemma hit_eq (h : p.Reorders q) : Hit.of? s p w c k d = Hit.of? s q w c k d := by
  rw [Hit.of?, Hit.of?, h.sum_eq, h.resolve_eq, h.resolveGlobal_eq]

lemma burst_eq (h : p.Reorders q) : Burst.of? hit p c = Burst.of? hit q c := by
  rw [Burst.of?, Burst.of?, h.sum_eq, h.resolveGlobal_eq]

lemma hits_eq (h : p.Reorders q) : Summary.hits s p w c k = Summary.hits s q w c k :=
  Summary.hits_congr rfl (fun _ _ => h.hit_eq) fun _ _ _ => h.burst_eq

lemma overTime_eq (h : p.Reorders q) (damage attributes : ℚ) :
    Summary.overTime? s p damage attributes = Summary.overTime? s q damage attributes := by
  rw [Summary.overTime?, Summary.overTime?, h.resolve_eq, h.resolveGlobal_eq]

lemma sources (h : p.Reorders q) : (Reap.sources p).Perm (Reap.sources q) := by
  rw [Reap.sources, Reap.sources, h.effectiveValue_eq]
  exact (h.matching .reap []).filterMap _

lemma reap_eq (h : p.Reorders q) : Reap.of? o p = Reap.of? o q := by
  have hrecovering : (Reap.recovering p).Perm (Reap.recovering q) := h.sources.filter _
  have hmade : Reap.made o p = Reap.made o q := by
    rw [Reap.made, Reap.made, sumOf_eq_sum, sumOf_eq_sum, h.resolveGlobal_eq, (hrecovering.map _).sum_eq]
  rw [Reap.of?_eq, Reap.of?_eq, hmade]
  simp only [← List.length_eq_zero_iff, h.sources.length_eq, hrecovering.length_eq]

lemma summary_eq (h : p.Reorders q) : Summary.of? s p w c = Summary.of? s q w c := by
  refine Summary.of?_congr ?_ (h.attributeMultiplier_eq _ _) (fun _ => h.hits_eq) h.overTime_eq fun _ _ _ _ => h.reap_eq
  rw [Summary.damage, Summary.damage, h.resolve_eq]

lemma defenses_eq (h : p.Reorders q) (baseMax : ℚ) : Defenses.ofPool p baseMax = .ofPool q baseMax := by
  simp only [Defenses.ofPool, Resistance.ofPool, h.resolve_eq]

end Pool.Reorders

/-! ## One entry for a key -/

section Key

variable {β γ κ : Type} [DecidableEq κ] {R : β → β → Prop} {xs ys : List β} {key : β → κ}

lemma Reordered.find?_bind {value : β → Option γ} (h : Reordered R xs ys) (hkeys : (xs.map key).Nodup)
    (hR : ∀ x y, R x y → key x = key y ∧ value x = value y) (k : κ) :
    (xs.find? (key · = k)).bind value = (ys.find? (key · = k)).bind value := by
  obtain ⟨zs, hperm, hrelated⟩ := h
  have hfind : xs.find? (key · = k) = zs.find? (key · = k) := by
    ext x
    rw [find?_eq_some_iff_of_nodup hkeys, find?_eq_some_iff_of_nodup ((hperm.map key).nodup_iff.mp hkeys), hperm.mem_iff]
  rw [hfind]
  exact find?_bind_of_forall₂ hrelated hR k

end Key

namespace Damage.Offense

/-! ## The skills of a build -/

section Steps

variable {α : Type} {name other : String} {a b : Summary α}

lemma put_comm (h : name ≠ other) (es : List (String × Summary α)) :
    put name a (put other b es) = put other b (put name a es) := by
  wlog hlt : name < other generalizing name other a b
  · exact (this h.symm (lt_of_le_of_ne (not_lt.mp hlt) h.symm)).symm
  induction es with
  | nil => simp [put, hlt, hlt.not_gt, h.symm]
  | cons e es ih =>
    rcases lt_trichotomy other e.1 with hother | hother | hother
    · simp [put, hlt, hlt.not_gt, h.symm, hother, hlt.trans hother]
    · simp [put, hlt, hlt.not_gt, h.symm, ← hother]
    · rcases lt_trichotomy name e.1 with hname | hname | hname
      · simp [put, hlt.not_gt, h.symm, hother.not_gt, hother.ne', hname]
      · simp [put, ← hname, hlt.not_gt, h.symm]
      · simp [put, hother.not_gt, hother.ne', hname.not_gt, hname.ne', ih]

variable [Number α] {d : GameData α} {c c' : Configuration} {pool pool' : List (Modifier α)} {w : Option (Weapon α)}
  {us us' : List SkillUse} {u v : SkillUse}

lemma addSkill?_comm (h : u.name ≠ v.name) (es : List (String × Summary α)) :
    (addSkill? d c pool w es u >>= fun es => addSkill? d c pool w es v) =
      (addSkill? d c pool w es v >>= fun es => addSkill? d c pool w es u) := by
  unfold addSkill?
  rcases summary? d c pool w u with _ | _ | a <;> rcases summary? d c pool w v with _ | _ | b <;> try rfl
  exact congrArg some (put_comm h.symm es)

lemma foldlM_perm (h : us.Perm us') (hnames : (us.map (·.name)).Nodup) (es : List (String × Summary α)) :
    us.foldlM (addSkill? d c pool w) es = us'.foldlM (addSkill? d c pool w) es := by
  induction h generalizing es with
  | nil => rfl
  | cons u _ ih =>
    have hrest := (List.nodup_cons.mp hnames).2
    rw [List.foldlM_cons, List.foldlM_cons]
    congr
    funext es
    exact ih hrest es
  | swap u v us =>
    have hne : v.name ≠ u.name := List.ne_of_not_mem_cons (List.nodup_cons.mp hnames).1
    simp only [List.foldlM_cons, ← bind_assoc]
    rw [addSkill?_comm hne]
  | trans h _ ih ih' => rw [ih hnames, ih' ((h.map _).nodup_iff.mp hnames)]

lemma foldlM_related {R : SkillUse → SkillUse → Prop} (h : List.Forall₂ R us us')
    (hstep : ∀ u u', R u u' → summary? d c pool w u = summary? d c' pool' w u' ∧ u.name = u'.name)
    (es : List (String × Summary α)) :
    us.foldlM (addSkill? d c pool w) es = us'.foldlM (addSkill? d c' pool' w) es := by
  induction h generalizing es with
  | nil => rfl
  | @cons u u' us us' hu _ ih =>
    obtain ⟨hsummary, hname⟩ := hstep u u' hu
    have hadd : addSkill? d c pool w es u = addSkill? d c' pool' w es u' := by
      rw [addSkill?, addSkill?, hsummary, hname]
    rw [List.foldlM_cons, List.foldlM_cons, hadd]
    congr
    funext es
    exact ih es

end Steps

variable {l l' : Loadout ℚ} {c c' : Configuration} {u u' : SkillUse}

lemma weapon?_eq (h : l.Reorders l') (hslots : (l.gear.map (·.slot)).Nodup) : weapon? l = weapon? l' :=
  h.gear.find?_bind hslots (fun _ _ hg => ⟨hg.slot, hg.weapon⟩) _

lemma summary?_eq (h : l.Reorders l') (hc : c.Reorders c') (hu : u.Reorders u') (d : GameData ℚ)
    (w : Option (Weapon ℚ)) :
    summary? d c (l.pool c d.templates) w u = summary? d c' (l'.pool c' d.templates) w u' := by
  have hpool : Pool.Reorders ⟨Loadout.skillPool (l.pool c d.templates) d.templates u, c⟩
      ⟨Loadout.skillPool (l'.pool c' d.templates) d.templates u', c'⟩ :=
    ⟨(h.pool hc d.templates).append hu.supportModifiers, hc.counts⟩
  rw [summary?, summary?, hu.name]
  cases d.skill? u'.name with
  | none => rfl
  | some s =>
    dsimp only
    rw [hpool.summary_eq]

theorem of?_reordered (d : GameData ℚ) (hslots : (l.gear.map (·.slot)).Nodup) (hnames : (l.active.map (·.name)).Nodup)
    (h : l.Reorders l') (hc : c.Reorders c') : Offense.of? l c d = Offense.of? l' c' d := by
  have hpool : Pool.Reorders ⟨l.pool c d.templates, c⟩ ⟨l'.pool c' d.templates, c'⟩ := ⟨h.pool hc d.templates, hc.counts⟩
  obtain ⟨us, hperm, hrelated⟩ := h.active.filter (·.enabled) fun _ _ hu => hu.enabled
  have hskills : l.enabledActive.foldlM (addSkill? d c (l.pool c d.templates) (weapon? l)) [] =
      l'.enabledActive.foldlM (addSkill? d c' (l'.pool c' d.templates) (weapon? l')) [] := by
    rw [weapon?_eq h hslots]
    have henabled : (l.enabledActive.map (·.name)).Nodup := hnames.sublist (List.filter_sublist.map _)
    exact (foldlM_perm hperm henabled []).trans
      (foldlM_related hrelated (fun _ _ hu => ⟨summary?_eq h hc hu d _, hu.name⟩) [])
  rw [Offense.of?, Offense.of?, hskills, hpool.defenses_eq]

def magister : Loadout ℚ where
  gear := [⟨.helmet, "Crown", none, ["+10% damage", "+20% additional spell damage"]⟩,
    ⟨.mainHand, "Staff", some ⟨10, 20, 3 / 2, 0⟩, ["+30% max cold resistance", "+5 strength"]⟩]
  talents := [⟨.magister, ⟨"Magister", [⟨.micro, "+9% damage", ⟨0, 0⟩, 3, "", none⟩]⟩, Allocation.empty.set ⟨0, 0⟩ 2⟩,
    ⟨.warlock, ⟨"Warlock", []⟩, .empty⟩]
  active := [⟨"Chain Lightning", 1, true, [⟨"Quick Cast", 3⟩, ⟨"Added Cold Damage", 1⟩]⟩,
    ⟨"Frost Spike", 20, true, [⟨"Critical Strike Damage Increase", 2⟩]⟩]
  passive := [⟨"Precise: Cruelty", 2, true, [⟨"Aura Amplification", 1⟩, ⟨"Aura Amplification", 4⟩]⟩,
    ⟨"Precise: Cruelty", 5, true, []⟩]
  prisms := [⟨"Prism", .legendary, "", [⟨.rare, "+4% damage"⟩, ⟨.legendary, "+15% cold damage"⟩]⟩,
    ⟨"Shard", .rare, "", []⟩]
  rings := [⟨"Ring", none, "+1% damage"⟩, ⟨"Band", none, "+2% attack speed"⟩]

theorem magister_reversed :
    (magister.gear.map (·.slot)).Nodup ∧ (magister.active.map (·.name)).Nodup ∧
      (∃ o ∈ Offense.of? magister ⟨[("cruelty_buff", 7)], ["+3% damage", "-5% spell damage"]⟩ .bundled,
        o.skills.map (·.1) = ["Chain Lightning", "Frost Spike"]) ∧
      Offense.of? magister ⟨[("cruelty_buff", 7)], ["+3% damage", "-5% spell damage"]⟩ .bundled =
        Offense.of? magister.reversed ⟨[("cruelty_buff", 7)], ["-5% spell damage", "+3% damage"]⟩ .bundled := by
  have hslots : (magister.gear.map (·.slot)).Nodup := by decide +kernel
  have hnames : (magister.active.map (·.name)).Nodup := by decide +kernel
  refine ⟨hslots, hnames, by decide +kernel, ?_⟩
  exact of?_reordered .bundled hslots hnames magister.reorders_reversed (Configuration.reorders_reversed _)

end Damage.Offense
end CharacterBuild
