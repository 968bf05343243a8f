import Mathlib
import CharacterBuild.Proofs.Affix.Lines
import CharacterBuild.Proofs.Damage.Order
import CharacterBuild.Proofs.Scan

/-! A build told in other words: its affix texts broken into other lines, with lines of flavour among them, and its items and
icons under other names. It has the same modifiers in the same order, and so does the same damage. -/

namespace CharacterBuild

open Affix Damage

variable {α : Type} [Number α] {l l' : Loadout α} {c c' : Configuration}

section Parts

structure Gear.Retells (g g' : Gear α) : Prop where
  slot : g.slot = g'.slot
  weapon : g.weapon = g'.weapon
  affixes : Relation.EqvGen (Regrouped α) g.affixes g'.affixes

variable (α)

structure TalentNode.Retells (n n' : TalentNode) : Prop where
  type : n.type = n'.type
  rawAffix : Relation.EqvGen (Retold α) n.rawAffix n'.rawAffix
  position : n.position = n'.position
  maxPoints : n.maxPoints = n'.maxPoints
  prerequisite : n.prerequisite = n'.prerequisite

structure TalentPage.Retells (p p' : TalentPage) : Prop where
  name : p.name = p'.name
  nodes : List.Forall₂ (TalentNode.Retells α) p.tree.nodes p'.tree.nodes
  allocation : p.allocation = p'.allocation

structure Gauge.Retells (g g' : Gauge) : Prop where
  rarity : g.rarity = g'.rarity
  affix : Relation.EqvGen (Retold α) g.affix g'.affix

structure Prism.Retells (p p' : Prism) : Prop where
  rarity : p.rarity = p'.rarity
  baseAffix : Relation.EqvGen (Retold α) p.baseAffix p'.baseAffix
  gauges : List.Forall₂ (Gauge.Retells α) p.gauges p'.gauges

structure Ring.Retells (r r' : Ring) : Prop where
  affix : Relation.EqvGen (Retold α) r.affix r'.affix

structure Configuration.Retells (c c' : Configuration) : Prop where
  counts : c.counts = c'.counts
  customAffixes : Relation.EqvGen (Regrouped α) c.customAffixes c'.customAffixes

variable {α}

structure Loadout.Retells (l l' : Loadout α) : Prop where
  gear : List.Forall₂ Gear.Retells l.gear l'.gear
  talents : List.Forall₂ (TalentPage.Retells α) l.talents l'.talents
  active : l.active = l'.active
  passive : l.passive = l'.passive
  prisms : List.Forall₂ (Prism.Retells α) l.prisms l'.prisms
  rings : List.Forall₂ (Ring.Retells α) l.rings l'.rings

end Parts

section Modifiers

lemma flatMap_of_forall₂ {β γ δ : Type} {R : β → γ → Prop} {f : β → List δ} {g : γ → List δ} {xs : List β} {ys : List γ}
    (h : List.Forall₂ R xs ys) (hfg : ∀ x y, R x y → f x = g y) : xs.flatMap f = ys.flatMap g := by
  induction h with
  | nil => rfl
  | cons hxy _ ih => rw [List.flatMap_cons, List.flatMap_cons, hfg _ _ hxy, ih]

lemma modifiers_retold {t u : String} (h : Relation.EqvGen (Retold α) t u) :
    (Affix.modifiers t : List (Modifier α)) = Affix.modifiers u :=
  eq_of_eqvGen (fun _ _ hstep => hstep.modifiers_eq) h

lemma flatMap_regrouped {xs ys : List String} (h : Relation.EqvGen (Regrouped α) xs ys) :
    (xs.flatMap Affix.modifiers : List (Modifier α)) = ys.flatMap Affix.modifiers :=
  eq_of_eqvGen (fun _ _ hstep => hstep.flatMap_eq) h

lemma Gear.Retells.modifiers {g g' : Gear α} (h : g.Retells g') : g.modifiers = g'.modifiers :=
  flatMap_regrouped h.affixes

lemma TalentPage.Retells.modifiers {p p' : TalentPage} (h : p.Retells α p') :
    (p.modifiers : List (Modifier α)) = p'.modifiers := by
  have hnode : ∀ (t : Tree) (e : Position × UInt32), (modifiersAt t e : List (Modifier α)) =
      ((t.nodes.find? (·.position = e.1)).bind fun n =>
        some ((Affix.modifiers n.rawAffix).map (·.scaled (e.2.toNat : α)))).getD [] := by
    intro t e
    unfold modifiersAt Tree.nodeAt?
    cases t.nodes.find? (·.position = e.1) <;> rfl
  rw [TalentPage.modifiers, TalentPage.modifiers, h.allocation]
  congr 1
  funext e
  rw [hnode, hnode]
  congr 1
  exact find?_bind_of_forall₂ h.nodes (fun n n' hn => ⟨hn.position, by rw [modifiers_retold hn.rawAffix]⟩) _

lemma Prism.Retells.modifiers {p p' : Prism} (h : p.Retells α p') : (p.modifiers : List (Modifier α)) = p'.modifiers := by
  have hgauges : (p.gauges.flatMap (Affix.modifiers ·.affix) : List (Modifier α)) =
      p'.gauges.flatMap (Affix.modifiers ·.affix) :=
    flatMap_of_forall₂ h.gauges fun _ _ hg => modifiers_retold hg.affix
  rw [Prism.modifiers, Prism.modifiers, List.flatMap_cons, List.flatMap_cons, modifiers_retold h.baseAffix, List.flatMap_map,
    List.flatMap_map, hgauges]

lemma Ring.Retells.modifiers {r r' : Ring} (h : r.Retells α r') : (r.modifiers : List (Modifier α)) = r'.modifiers :=
  modifiers_retold h.affix

lemma Configuration.Retells.modifiers (h : c.Retells α c') : (c.modifiers : List (Modifier α)) = c'.modifiers :=
  flatMap_regrouped h.customAffixes

lemma Loadout.Retells.baseModifiers (h : l.Retells l') (hc : c.Retells α c') :
    l.baseModifiers c = l'.baseModifiers c' := by
  rw [Loadout.baseModifiers, Loadout.baseModifiers, flatMap_of_forall₂ h.gear fun _ _ hg => hg.modifiers,
    flatMap_of_forall₂ h.talents fun _ _ hp => hp.modifiers, flatMap_of_forall₂ h.prisms fun _ _ hp => hp.modifiers,
    flatMap_of_forall₂ h.rings fun _ _ hr => hr.modifiers, hc.modifiers]

end Modifiers

section Counts

variable {counts : List (String × UInt32)} {xs ys : List String} {ms base : List (Modifier α)}

lemma passiveBlock_counts (ts : Templates α) :
    Loadout.passiveBlock base ⟨counts, xs⟩ ts = Loadout.passiveBlock base ⟨counts, ys⟩ ts :=
  rfl

lemma addSkill?_counts (d : GameData α) (w : Option (Weapon α)) :
    Offense.addSkill? d ⟨counts, xs⟩ ms w = Offense.addSkill? d ⟨counts, ys⟩ ms w :=
  rfl

lemma defenses_counts (baseMax : α) :
    Defenses.ofPool ⟨ms, ⟨counts, xs⟩⟩ baseMax = Defenses.ofPool ⟨ms, ⟨counts, ys⟩⟩ baseMax :=
  rfl

end Counts

lemma Loadout.Retells.pool (h : l.Retells l') (hc : c.Retells α c') (ts : Templates α) : l.pool c ts = l'.pool c' ts := by
  obtain ⟨counts, xs⟩ := c
  obtain ⟨_, ys⟩ := c'
  obtain rfl : counts = _ := hc.counts
  rw [Loadout.pool, Loadout.pool, h.baseModifiers hc, Loadout.enabledPassive, h.passive, ← Loadout.enabledPassive,
    passiveBlock_counts ts]

lemma Loadout.Retells.weapon? (h : l.Retells l') : Offense.weapon? l = Offense.weapon? l' :=
  find?_bind_of_forall₂ h.gear (fun _ _ hg => ⟨hg.slot, hg.weapon⟩) _

lemma Loadout.Retells.offense (h : l.Retells l') (hc : c.Retells α c') (d : GameData α) :
    Offense.of? l c d = Offense.of? l' c' d := by
  have hpool := h.pool hc d.templates
  have hcounts := hc.counts
  obtain ⟨counts, xs⟩ := c
  obtain ⟨counts', ys⟩ := c'
  obtain rfl : counts = counts' := hcounts
  rw [Offense.of?, Offense.of?, hpool, h.weapon?, Loadout.enabledActive, h.active, ← Loadout.enabledActive,
    addSkill?_counts, defenses_counts]

theorem retelling_keeps_offense :
    (∀ t gap u : String, IsBreak gap →
      (Affix.modifiers (t ++ gap ++ u) : List (Modifier α)) = Affix.modifiers t ++ Affix.modifiers u ∧
        (Affix.modifiers (t ++ gap) : List (Modifier α)) = Affix.modifiers t) ∧
    ∀ (l l' : Loadout α) (c c' : Configuration) (d : GameData α), l.Retells l' → c.Retells α c' →
      l.pool c d.templates = l'.pool c' d.templates ∧ Offense.of? l c d = Offense.of? l' c' d := by
  refine ⟨fun t gap u h => ⟨modifiers_append_break h t u, ?_⟩, fun l l' c c' d h hc => ⟨h.pool hc _, h.offense hc d⟩⟩
  simpa using modifiers_append_break h t ""

namespace Damage.Offense

def magisterRetold : Loadout ℚ where
  gear := [⟨.helmet, "Diadem", none, ["+10% damage\nForged in ash.", "+20% additional spell damage"]⟩,
    ⟨.mainHand, "Rod", some ⟨10, 20, 3 / 2, 0⟩, ["+30% max cold resistance\n+5 strength"]⟩]
  talents := [⟨.magister, ⟨"Magister", [⟨.micro, "Forged in ash.\n+9% damage", ⟨0, 0⟩, 3, "flame", none⟩]⟩,
      Allocation.empty.set ⟨0, 0⟩ 2⟩,
    ⟨.warlock, ⟨"Warlock", []⟩, .empty⟩]
  active := magister.active
  passive := magister.passive
  prisms := [⟨"Glass", .legendary, "", [⟨.rare, "+4% damage\r\n\r\n"⟩, ⟨.legendary, "+15% cold damage"⟩]⟩,
    ⟨"Splinter", .rare, "Forged in ash.", []⟩]
  rings := [⟨"Loop", some "Ember", "+1% damage"⟩, ⟨"Hoop", none, "+2% attack speed"⟩]

lemma isFlavour_ash : IsFlavour ℚ "Forged in ash." where
  newline_notMem := by decide
  parse_eq_none := by decide +kernel

lemma retells_magisterRetold : magister.Retells magisterRetold := by
  have hash : ∀ l ∈ ["Forged in ash."], IsFlavour ℚ l := by simpa using isFlavour_ash
  have hhelmet : Regrouped ℚ ["+10% damage", "+20% additional spell damage"]
      ["+10% damage\nForged in ash.", "+20% additional spell damage"] :=
    .retold [] _ (by simpa using Retold.flavoured ["+10% damage"] ["Forged in ash."] [] hash)
  have hstaff : Regrouped ℚ ["+30% max cold resistance", "+5 strength"] ["+30% max cold resistance\n+5 strength"] := by
    simpa using Regrouped.joined (α := ℚ) [] "+30% max cold resistance" "+5 strength" []
  have hnode : Retold ℚ "+9% damage" "Forged in ash.\n+9% damage" := by
    simpa using Retold.flavoured [] ["Forged in ash."] ["+9% damage"] hash
  have hgauge : Retold ℚ "+4% damage" "+4% damage\r\n\r\n" := by
    simpa using Retold.ended (α := ℚ) "+4% damage" (by decide : IsBreak "\r\n\r\n")
  have hshard : Retold ℚ "" "Forged in ash." := by
    simpa using Retold.flavoured [] ["Forged in ash."] [] hash
  refine ⟨?_, ?_, rfl, rfl, ?_, ?_⟩
  · exact .cons ⟨rfl, rfl, .rel _ _ hhelmet⟩ (.cons ⟨rfl, rfl, .rel _ _ hstaff⟩ .nil)
  · exact .cons ⟨rfl, .cons ⟨rfl, .rel _ _ hnode, rfl, rfl, rfl⟩ .nil, rfl⟩ (.cons ⟨rfl, .nil, rfl⟩ .nil)
  · exact .cons ⟨rfl, .refl _, .cons ⟨rfl, .rel _ _ hgauge⟩ (.cons ⟨rfl, .refl _⟩ .nil)⟩
      (.cons ⟨rfl, .rel _ _ hshard, .nil⟩ .nil)
  · exact .cons ⟨.refl _⟩ (.cons ⟨.refl _⟩ .nil)

theorem magister_retold :
    (IsBreak "\r\n \r\n" ∧ (Affix.modifiers ("+10% damage" ++ "\r\n \r\n" ++ "+5 strength") : List (Modifier ℚ)) =
      Affix.modifiers "+10% damage" ++ Affix.modifiers "+5 strength") ∧
    magister.Retells magisterRetold ∧ Configuration.Retells ℚ ⟨[("cruelty_buff", 7)], ["+3% damage\n-5% spell damage"]⟩
      ⟨[("cruelty_buff", 7)], ["+3% damage", "-5% spell damage"]⟩ ∧
    Offense.of? magister ⟨[("cruelty_buff", 7)], ["+3% damage\n-5% spell damage"]⟩ .bundled =
      Offense.of? magisterRetold ⟨[("cruelty_buff", 7)], ["+3% damage", "-5% spell damage"]⟩ .bundled := by
  have hbreak : IsBreak "\r\n \r\n" := by decide
  have hcustom : Configuration.Retells ℚ ⟨[("cruelty_buff", 7)], ["+3% damage\n-5% spell damage"]⟩
      ⟨[("cruelty_buff", 7)], ["+3% damage", "-5% spell damage"]⟩ :=
    ⟨rfl, .rel _ _ (.parted [] "+3% damage\n-5% spell damage" [])⟩
  obtain ⟨htexts, hbuilds⟩ := retelling_keeps_offense (α := ℚ)
  exact ⟨⟨hbreak, (htexts _ _ _ hbreak).1⟩, retells_magisterRetold, hcustom,
    (hbuilds _ _ _ _ .bundled retells_magisterRetold hcustom).2⟩

end Damage.Offense
end CharacterBuild
