import Mathlib
import CharacterBuild.Affix.Basic
import CharacterBuild.Number.Rational
import CharacterBuild.Proofs.Affix.Reading

/-! No line has two readings. A word at the beginning of a line, or else the last two words, tell which form may read it, so
the order of the forms decides nothing. -/

namespace CharacterBuild.Affix

variable {α : Type} [Number α] {m : Modifier α} {f : Form α} {fs : List (Form α)} {ts lead : List String} {w : String}
  {x : α} {b : Bool}

def IsFigure (w : String) : Prop :=
  ∀ c ∈ w.toList, c.isAlpha = false

instance (w : String) : Decidable (IsFigure w) :=
  List.decidableBAll _ w.toList

lemma isAlpha_eq_false {c : Char} (h : c.isDigit = true ∨ c = '.' ∨ c = '+' ∨ c = '-' ∨ c = '%') :
    c.isAlpha = false := by
  rcases h with h | rfl | rfl | rfl | rfl
  · simp only [Char.isDigit, Char.isAlpha, Char.isUpper, Char.isLower] at *
    grind
  all_goals decide

lemma IsAmount.isFigure (h : IsAmount w x) : IsFigure w := by
  obtain ⟨d, hd, _⟩ := h
  intro c hc
  exact isAlpha_eq_false ((hd.mem hc).imp_right .inl)

lemma IsSigned.isFigure (h : IsSigned w x) : IsFigure w := by
  intro c hc
  exact isAlpha_eq_false (h.mem hc)

lemma IsPercent.isFigure (h : IsPercent w x) : IsFigure w := by
  intro c hc
  exact isAlpha_eq_false (h.mem hc)

def opening? : String → Option String
  | "adds" => some "flat_damage"
  | "ingenuity" => some "ingenuity_overload"
  | "reaps" => some "reap"
  | _ => none

def ending (v : String) : String → String
  | "time" => "dot_damage"
  | "rating" => "crit_rating"
  | "effect" => "aura_effect"
  | "resistance" => "resistance"
  | "burst" => "max_spell_burst"
  | "duration" => if v = "skill" then "skill_duration" else "reap_duration"
  | "speed" =>
    if v = "attack" then "attack_speed"
    else if v = "cast" then "cast_speed"
    else if v = "charge" then "spell_burst_charge_speed"
    else "reap_cooldown"
  | "damage" => if v = "strike" then "crit_damage" else if v = "burst" then "spell_burst_damage" else "damage"
  | _ => "stat"

def formName (ts : List String) : String :=
  match ts.head?.bind opening?, ts.reverse with
  | some name, _ => name
  | none, w :: v :: _ => ending v w
  | none, _ => ""

def tellingWords : List String :=
  ["adds", "ingenuity", "reaps", "attack", "burst", "cast", "charge", "skill", "strike"]

lemma IsFigure.notMem_tellingWords (h : IsFigure w) : w ∉ tellingWords := by
  have hletters : ∀ v ∈ tellingWords, ¬ IsFigure v := by decide
  intro hw
  exact hletters w hw h

lemma opening?_eq_none (h : w ∉ tellingWords) : opening? w = none := by
  unfold opening?
  split
  case h_4 => rfl
  all_goals exact absurd (by decide) h

lemma ending_eq (h : w ∉ tellingWords) (v : String) : ending w v = ending "" v := by
  simp only [tellingWords, List.mem_cons, List.not_mem_nil, or_false, not_or] at h
  unfold ending
  split <;> simp [h]

inductive IsLead : List String → Prop
  | bare {w : String} (h : w ∉ tellingWords) : IsLead [w]
  | additional {w : String} (h : w ∉ tellingWords) : IsLead [w, "additional"]

lemma Rate.isLead (h : Rate lead x b) : IsLead lead := by
  cases h with
  | bare h => exact .bare h.isFigure.notMem_tellingWords
  | additional h => exact .additional h.isFigure.notMem_tellingWords

lemma formName_cons (hw : w ∉ tellingWords) (ws : List String) {u v : String} (hts : w :: ts = ws ++ [u, v]) :
    formName (w :: ts) = ending u v := by
  have hhead : (w :: ts).head?.bind opening? = none := opening?_eq_none hw
  rw [formName, hhead, hts, List.reverse_append]
  rfl

lemma IsLead.formName_append (h : IsLead lead) (ws : List String) (u v : String) :
    formName (lead ++ (ws ++ [u, v])) = ending u v := by
  cases h with
  | bare h => exact formName_cons h (_ :: ws) rfl
  | additional h => exact formName_cons h (_ :: "additional" :: ws) rfl

lemma IsLead.formName_last (h : IsLead lead) (v : String) : formName (lead ++ [v]) = ending "" v := by
  cases h with
  | bare h => exact (formName_cons h [] rfl).trans (ending_eq h v)
  | additional h => exact (formName_cons h [_] rfl).trans (ending_eq (by decide) v)

lemma ne_of_eq_none {β : Type} {g : String → Option β} {s : β} {v : String} (hw : g w = some s) (hv : g v = none) :
    w ≠ v := by
  rintro rfl
  rw [hv] at hw
  cases hw

lemma ending_attribute {a : Attribute} {v : String} (u : String) (hv : Attribute.ofWord? v = some a) :
    ending u v = "stat" := by
  unfold ending
  split
  case h_9 => rfl
  all_goals exact absurd rfl (ne_of_eq_none hv (by decide))

lemma ending_damage {u : String} (hs : u ≠ "strike") (hb : u ≠ "burst") : ending u "damage" = "damage" := by
  simp [ending, hs, hb]

namespace Form

lemma formName_damage (h : damage.read? ts = some m) : formName ts = "damage" := by
  obtain ⟨lead, x, b, hlead, ⟨rfl, _⟩ | ⟨w, s, rfl, hw, _⟩⟩ := damage_words h
  · exact hlead.isLead.formName_last "damage"
  · have hname := hlead.isLead.formName_append [] w "damage"
    rw [List.nil_append] at hname
    rw [hname, ending_damage (ne_of_eq_none hw (by decide)) (ne_of_eq_none hw (by decide))]

lemma formName_phrase {name : String} {e : Effect α} (ws : List String) {u v : String}
    (h : (phrase name e (ws ++ [u, v])).read? ts = some m) : formName ts = ending u v := by
  obtain ⟨lead, x, b, hlead, rfl, _⟩ := phrase_words h
  exact hlead.isLead.formName_append ws u v

lemma formName_critical {name last : String} {e : Effect α} (h : (critical name e last).read? ts = some m) :
    formName ts = ending "strike" last := by
  obtain ⟨lead, x, b, ws, s, hlead, _, rfl, _⟩ := critical_words h
  simpa using hlead.isLead.formName_append (ws ++ ["critical"]) "strike" last

lemma formName_resistance (h : resistance.read? ts = some m) : formName ts = "resistance" := by
  obtain ⟨w, v, ws, x, s, e, hw, _, _, _, rfl, _⟩ := resistance_words h
  exact formName_cons hw.isFigure.notMem_tellingWords (w :: ws) rfl

lemma formName_attributes (h : attributes.read? ts = some m) : formName ts = "stat" := by
  rcases attributes_words h with ⟨w, v, x, a, hw, hv, rfl, _⟩ | ⟨lead, v, x, b, a, hlead, hv, rfl, _⟩
  · rw [formName_cons hw.isFigure.notMem_tellingWords [] rfl, ending_attribute w hv]
  · rw [hlead.isLead.formName_last v, ending_attribute "" hv]

lemma formName_maxSpellBurst (h : maxSpellBurst.read? ts = some m) : formName ts = "max_spell_burst" := by
  obtain ⟨w, x, hw, rfl, _⟩ := maxSpellBurst_words h
  exact formName_cons hw.isFigure.notMem_tellingWords [w, "max"] rfl

end Form

lemma formName_of_read (hf : f ∈ forms) (h : f.read? ts = some m) : formName ts = f.name := by
  simp only [forms, List.mem_cons, List.not_mem_nil, or_false] at hf
  rcases hf with rfl | rfl | rfl | rfl | rfl | rfl | rfl | rfl | rfl | rfl | rfl | rfl | rfl | rfl | rfl | rfl | rfl | rfl
  · exact Form.formName_damage h
  · exact Form.formName_phrase ["damage"] h
  · exact Form.formName_critical h
  · exact Form.formName_critical h
  · exact Form.formName_phrase [] h
  · exact Form.formName_phrase [] h
  · exact Form.formName_phrase [] h
  · exact Form.formName_phrase [] h
  · exact Form.formName_resistance h
  · exact Form.formName_attributes h
  · obtain ⟨_, _, _, _, _, _, _, _, _, _, _, _, rfl, _⟩ := Form.flatDamage_words h
    rfl
  · exact Form.formName_maxSpellBurst h
  · exact Form.formName_phrase ["spell", "burst"] h
  · exact Form.formName_phrase ["spell"] h
  · obtain ⟨_, _, _, rfl, _⟩ := Form.ingenuityOverload_words h
    rfl
  · obtain ⟨_, _, _, _, _, rfl, _⟩ := Form.reap_words h
    rfl
  · exact Form.formName_phrase ["reaping", "cooldown"] h
  · exact Form.formName_phrase [] h

lemma nodup_names : ((forms : List (Form α)).map (·.name)).Nodup := by
  have hnames : (forms : List (Form α)).map (·.name) =
      ["damage", "dot_damage", "crit_rating", "crit_damage", "attack_speed", "cast_speed", "aura_effect",
        "skill_duration", "resistance", "stat", "flat_damage", "max_spell_burst", "spell_burst_charge_speed",
        "spell_burst_damage", "ingenuity_overload", "reap", "reap_cooldown", "reap_duration"] := rfl
  rw [hnames]
  decide

lemma length_readers_le_one (ts : List String) :
    ((forms : List (Form α)).filter fun f => (f.read? ts).isSome).length ≤ 1 := by
  let readers := (forms : List (Form α)).filter fun f => (f.read? ts).isSome
  have hnodup : (readers.map (·.name)).Nodup := nodup_names.sublist (List.filter_sublist.map _)
  have hsub : readers.map (·.name) ⊆ [formName ts] := by
    intro name hname
    obtain ⟨f, hf, rfl⟩ := List.mem_map.mp hname
    obtain ⟨hmem, hread⟩ := List.mem_filter.mp hf
    obtain ⟨m, hm⟩ := Option.isSome_iff_exists.mp hread
    rw [formName_of_read hmem hm]
    exact List.mem_singleton_self _
  simpa using (hnodup.subperm hsub).length_le

lemma readWords_eq_some_iff (hfs : fs.Perm forms) : readWords fs ts = some m ↔ ∃ f ∈ forms, f.read? ts = some m := by
  constructor
  · intro h
    obtain ⟨f, hf, hread⟩ := List.exists_of_findSome?_eq_some h
    exact ⟨f, hfs.mem_iff.mp hf, hread⟩
  · rintro ⟨f, hf, hread⟩
    have hsome : (readWords fs ts).isSome :=
      List.findSome?_isSome_iff.mpr ⟨f, hfs.mem_iff.mpr hf, by simp [hread]⟩
    obtain ⟨n, hn⟩ := Option.isSome_iff_exists.mp hsome
    obtain ⟨g, hg, hread'⟩ := List.exists_of_findSome?_eq_some hn
    have hg := hfs.mem_iff.mp hg
    -- both forms have the name that the words tell
    have hname : f.name = g.name := (formName_of_read hf hread).symm.trans (formName_of_read hg hread')
    obtain rfl := List.inj_on_of_nodup_map nodup_names hf hg hname
    rw [hn, ← hread, hread']

theorem forms_exclusive :
    (forms : List (Form α)).length = 18 ∧
      (∀ ts, ((forms : List (Form α)).filter fun f => (f.read? ts).isSome).length ≤ 1) ∧
      ∀ fs : List (Form α), fs.Perm forms → ∀ text, readWords fs (tokens text) = parse text := by
  refine ⟨rfl, length_readers_le_one, fun fs hfs text => Option.ext fun m => ?_⟩
  rw [readWords_eq_some_iff hfs, parse, readWords_eq_some_iff (List.Perm.refl _)]

theorem forms_exclusive_reversed :
    (forms : List (Form ℚ)).reverse.Perm forms ∧
      readWords (forms : List (Form ℚ)).reverse (tokens "+20% additional spell burst damage") =
        parse "+20% additional spell burst damage" ∧
      (parse "+20% additional spell burst damage" : Option (Modifier ℚ)) =
        some { effect := .spellBurstDamage, value := 1 / 5, additional := true } := by
  have hperm : (forms : List (Form ℚ)).reverse.Perm forms := List.reverse_perm _
  exact ⟨hperm, forms_exclusive.2.2 _ hperm _, by decide +kernel⟩

end CharacterBuild.Affix
