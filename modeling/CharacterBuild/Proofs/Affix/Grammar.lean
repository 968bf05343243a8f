import Mathlib
import CharacterBuild.Modifier.Basic
import CharacterBuild.Proofs.Affix.Numeral

/-! The grammar of affix lines: which words make a line with an effect, and the modifier that such a line stands for. -/

namespace CharacterBuild.Affix

variable {α : Type} [Number α]

inductive Rate : List String → α → Bool → Prop
  | bare {w : String} {x : α} (h : IsPercent w x) : Rate [w] x false
  | additional {w : String} {x : α} (h : IsPercent w x) : Rate [w, "additional"] x true

def phrases : List (List String × Effect α) :=
  [(["damage", "over", "time"], .damageOverTime), (["attack", "speed"], .attackSpeed),
    (["cast", "speed"], .castSpeed), (["aura", "effect"], .auraEffect), (["skill", "duration"], .skillDuration),
    (["spell", "burst", "charge", "speed"], .spellBurstChargeSpeed), (["spell", "burst", "damage"], .spellBurstDamage),
    (["reaping", "cooldown", "recovery", "speed"], .reapRecovery), (["reaping", "duration"], .reapDuration)]

def criticalScopes : List (List String × Scope) :=
  [([], .global), (["attack"], .attack), (["spell"], .spell)]

def criticalEffects : List (String × Effect α) :=
  [("rating", .critRating), ("damage", .critDamage)]

def resistanceEffects : List (List String × Effect α) :=
  [([], .resistance), (["max"], .maxResistance)]

def resistanceScopes : List (String × Scope) :=
  [("all", .global), ("global", .global), ("cold", .cold), ("lightning", .lightning), ("fire", .fire),
    ("erosion", .erosion), ("elemental", .elemental)]

def attributeWords : List (String × Attribute) :=
  [("str", .strength), ("strength", .strength), ("dex", .dexterity), ("dexterity", .dexterity),
    ("int", .intelligence), ("intelligence", .intelligence)]

def flatDamageScopes : List (List String × Scope) :=
  [([], .global), (["to", "attacks"], .attack), (["to", "spells"], .spell)]

section Tables

variable {ws : List String} {v : String} {s : Scope} {e : Effect α}

lemma mem_criticalScopes_iff : (ws, s) ∈ criticalScopes ↔
    ws = [] ∧ s = .global ∨ ws = ["attack"] ∧ s = .attack ∨ ws = ["spell"] ∧ s = .spell := by
  simp [criticalScopes]

lemma mem_flatDamageScopes_iff : (ws, s) ∈ flatDamageScopes ↔
    ws = [] ∧ s = .global ∨ ws = ["to", "attacks"] ∧ s = .attack ∨ ws = ["to", "spells"] ∧ s = .spell := by
  simp [flatDamageScopes]

lemma mem_resistanceScopes_iff : (v, s) ∈ resistanceScopes ↔
    v = "all" ∧ s = .global ∨ v = "global" ∧ s = .global ∨ v = "cold" ∧ s = .cold ∨ v = "lightning" ∧ s = .lightning ∨
      v = "fire" ∧ s = .fire ∨ v = "erosion" ∧ s = .erosion ∨ v = "elemental" ∧ s = .elemental := by
  simp [resistanceScopes]

omit [Number α]

lemma mem_criticalEffects_iff : (v, e) ∈ criticalEffects ↔
    v = "rating" ∧ e = .critRating ∨ v = "damage" ∧ e = .critDamage := by
  simp [criticalEffects]

lemma mem_resistanceEffects_iff : (ws, e) ∈ resistanceEffects ↔
    ws = [] ∧ e = .resistance ∨ ws = ["max"] ∧ e = .maxResistance := by
  simp [resistanceEffects]

end Tables

def CooldownBehind (before ts : List String) (x : α) : Prop :=
  ∃ w after, ts = before ++ w :: "s" :: "cooldown" :: after ∧ IsAmount w x

structure FirstCooldown (before ts : List String) (x : α) : Prop where
  stands : CooldownBehind before ts x
  first : ∀ before' (y : α), CooldownBehind before' ts y → before.length ≤ before'.length

/-- The first cooldown among the words, or a second where none stands. -/
inductive Cooldown (ts : List String) : α → Prop
  | given {before : List String} {x : α} (h : FirstCooldown before ts x) : Cooldown ts x
  | standard (hnone : ∀ before (y : α), ¬ CooldownBehind before ts y) : Cooldown ts 1

inductive Sentence : List String → Modifier α → Prop
  | damage {lead : List String} {x : α} {b : Bool} (h : Rate lead x b) :
      Sentence (lead ++ ["damage"]) { effect := .damage, value := x, additional := b }
  | scopedDamage {lead : List String} {x : α} {b : Bool} (h : Rate lead x b) (s : Scope) :
      Sentence (lead ++ [Named.name s, "damage"]) { effect := .damage, value := x, scope := s, additional := b }
  | phrase {lead ws : List String} {x : α} {b : Bool} {e : Effect α} (h : Rate lead x b) (he : (ws, e) ∈ phrases) :
      Sentence (lead ++ ws) { effect := e, value := x, additional := b }
  | critical {lead ws : List String} {last : String} {x : α} {b : Bool} {s : Scope} {e : Effect α} (h : Rate lead x b)
      (hs : (ws, s) ∈ criticalScopes) (he : (last, e) ∈ criticalEffects) :
      Sentence (lead ++ ws ++ ["critical", "strike", last]) { effect := e, value := x, scope := s, additional := b }
  | resistance {w v : String} {ws : List String} {x : α} {s : Scope} {e : Effect α} (h : IsPercent w x)
      (he : (ws, e) ∈ resistanceEffects) (hs : (v, s) ∈ resistanceScopes) :
      Sentence (w :: ws ++ [v, "resistance"]) { effect := e, value := x, scope := s, additional := true }
  | attributePoints {w v : String} {x : α} {a : Attribute} (h : IsSigned w x) (ha : (v, a) ∈ attributeWords) :
      Sentence [w, v] { effect := .attributePoints a, value := x, additional := true }
  | attributePercent {lead : List String} {v : String} {x : α} {b : Bool} {a : Attribute} (h : Rate lead x b)
      (ha : (v, a) ∈ attributeWords) :
      Sentence (lead ++ [v]) { effect := .attributePercent a, value := x, additional := b }
  | flatDamage {v w : String} {ws : List String} {x y : α} {s : Scope} (hx : IsAmount v x) (hy : IsAmount w y)
      (type : DamageType) (hs : (ws, s) ∈ flatDamageScopes) :
      Sentence (["adds", v, "-", w, Named.name type, "damage"] ++ ws)
        { effect := .flatDamage type x y, value := (x + y) / 2, scope := s, additional := true }
  | maxSpellBurst {w : String} {x : α} (h : IsSigned w x) :
      Sentence [w, "max", "spell", "burst"] { effect := .maxSpellBurst, value := x, additional := true }
  | ingenuityOverload {w : String} {x : α} (h : IsPercent w x) :
      Sentence ["ingenuity", "overload", "deals", w, "of", "spell", "burst", "damage"]
        { effect := .ingenuityOverload, value := x, additional := true }
  | reap {w : String} {tail : List String} {x c : α} (h : IsAmount w x) (hc : Cooldown tail c) (hpos : ¬ c ≤ 0) :
      Sentence (["reaps", w, "s", "of", "damage", "over", "time"] ++ tail)
        { effect := .reap c, value := x, additional := true }

end CharacterBuild.Affix
