import CharacterBuild.Affix.Numeral
import CharacterBuild.Modifier.Basic

/-! The forms of an affix line. A form reads the words of a line as a modifier, and writes the modifiers of its kind
as the words of a line. -/

namespace CharacterBuild.Affix

structure Form (α : Type) where
  name : String
  read? : List String → Option (Modifier α)
  write? : Modifier α → Option (List String)

variable {α : Type} [Number α]

def rate? : List String → Option (α × Bool × List String)
  | [] => none
  | first :: rest => do
    let value ← percent? first
    match rest with
    | "additional" :: rest => some (value, true, rest)
    | rest => some (value, false, rest)

def additionalWord (additional : Bool) : List String :=
  if additional then ["additional"] else []

def scopeWord : Scope → List String
  | .global => []
  | s => [Named.name s]

def rate (m : Modifier α) : List String :=
  percent m.value :: additionalWord m.additional

namespace Form

def damage : Form α where
  name := "damage"
  read? ts := do
    let (value, additional, rest) ← rate? ts
    let scope ← match rest with
      | ["damage"] => some .global
      | [w, "damage"] => Named.ofWord? w
      | _ => none
    some { effect := .damage, value, scope, additional }
  write? m :=
    if m.stat = .damage then some (rate m ++ scopeWord m.scope ++ ["damage"]) else none

def phrase (name : String) (effect : Effect α) (wording : List String) : Form α where
  name
  read? ts := do
    let (value, additional, rest) ← rate? ts
    guard (rest = wording)
    some { effect, value, additional }
  write? m :=
    if m.stat = effect.stat ∧ m.scope = .global then some (rate m ++ wording) else none

def critical (name : String) (effect : Effect α) (last : String) : Form α where
  name
  read? ts := do
    let (value, additional, rest) ← rate? ts
    let (scope, rest) := match rest with
      | "attack" :: rest => (Scope.attack, rest)
      | "spell" :: rest => (Scope.spell, rest)
      | rest => (Scope.global, rest)
    guard (rest = ["critical", "strike", last])
    some { effect, value, scope, additional }
  write? m :=
    if m.stat = effect.stat ∧ m.scopeAccepted then
      some (rate m ++ scopeWord m.scope ++ ["critical", "strike", last])
    else none

def resistanceScope? : String → Option Scope
  | "all" => some .global
  | w => Named.ofWord? w

/-- Resistances only add up, so their text has no word for it. -/
def resistance : Form α where
  name := "resistance"
  read?
    | [] => none
    | first :: rest => do
      let value ← percent? first
      let (effect, w) ← match rest with
        | ["max", w, "resistance"] => some (Effect.maxResistance, w)
        | [w, "resistance"] => some (Effect.resistance, w)
        | _ => none
      let scope ← resistanceScope? w
      guard (effect.stat.accepts scope)
      some { effect, value, scope, additional := true }
  write? m := do
    let max ← match m.stat with
      | .resistance => some []
      | .maxResistance => some ["max"]
      | _ => none
    guard (m.additional ∧ m.scopeAccepted)
    let scope := match m.scope with
      | .global => "all"
      | s => Named.name s
    some (percent m.value :: max ++ [scope, "resistance"])

def attributes : Form α where
  name := "stat"
  read? ts :=
    let percentage := do
      let (value, additional, rest) ← rate? ts
      match rest with
      | [w] => some { effect := .attributePercent (← Attribute.ofWord? w), value, additional }
      | _ => none
    match ts with
    | [first, w] => match signed? first with
      | some value => do
        some { effect := .attributePoints (← Attribute.ofWord? w), value, additional := true }
      | none => percentage
    | _ => percentage
  write? m := match m.effect with
    | .attributePoints a => some [signed m.value, a.fullName]
    | .attributePercent a => some (rate m ++ [a.fullName])
    | _ => none

def flatDamage : Form α where
  name := "flat_damage"
  read?
    | "adds" :: min :: "-" :: max :: w :: "damage" :: tail => do
      let scope ← match tail with
        | [] => some .global
        | ["to", "attacks"] => some .attack
        | ["to", "spells"] => some .spell
        | _ => none
      let min ← amount? min
      let max ← amount? max
      let type ← Named.ofWord? w
      some (.flatDamage type min max scope)
    | _ => none
  write? m := match m.effect with
    | .flatDamage type min max => do
      let tail ← match m.scope with
        | .global => some []
        | .attack => some ["to", "attacks"]
        | .spell => some ["to", "spells"]
        | _ => none
      some (["adds", amount min, "-", amount max, Named.name type, "damage"] ++ tail)
    | _ => none

def maxSpellBurst : Form α where
  name := "max_spell_burst"
  read?
    | [first, "max", "spell", "burst"] => do
      some { effect := .maxSpellBurst, value := ← signed? first, additional := true }
    | _ => none
  write? m :=
    if m.stat = .maxSpellBurst then some [signed m.value, "max", "spell", "burst"] else none

def ingenuityOverload : Form α where
  name := "ingenuity_overload"
  read?
    | ["ingenuity", "overload", "deals", share, "of", "spell", "burst", "damage"] => do
      some { effect := .ingenuityOverload, value := ← percent? share, additional := true }
    | _ => none
  write? m :=
    if m.stat = .ingenuityOverload then
      some ["ingenuity", "overload", "deals", amount (m.value * 100) ++ "%", "of", "spell", "burst",
        "damage"]
    else none

def cooldown? : List String → Option α
  | n :: s :: c :: ts =>
    if s = "s" ∧ c = "cooldown" then amount? n <|> cooldown? (s :: c :: ts)
    else cooldown? (s :: c :: ts)
  | _ => none

/-- Without a cooldown of its own a reap has one of a second; it is never zero. -/
def reap : Form α where
  name := "reap"
  read?
    | "reaps" :: seconds :: "s" :: "of" :: "damage" :: "over" :: "time" :: tail => do
      let value ← amount? seconds
      let cooldown := (cooldown? tail).getD 1
      guard (¬ cooldown ≤ 0)
      some { effect := .reap cooldown, value, additional := true }
    | _ => none
  write? m := match m.effect with
    | .reap cooldown =>
      some ["reaps", amount m.value, "s", "of", "damage", "over", "time.", "the", "effect", "has", "a",
        amount cooldown, "s", "cooldown"]
    | _ => none

end Form

open Form

def forms : List (Form α) :=
  [damage,
    phrase "dot_damage" .damageOverTime ["damage", "over", "time"],
    critical "crit_rating" .critRating "rating",
    critical "crit_damage" .critDamage "damage",
    phrase "attack_speed" .attackSpeed ["attack", "speed"],
    phrase "cast_speed" .castSpeed ["cast", "speed"],
    phrase "aura_effect" .auraEffect ["aura", "effect"],
    phrase "skill_duration" .skillDuration ["skill", "duration"],
    resistance, attributes, flatDamage, maxSpellBurst,
    phrase "spell_burst_charge_speed" .spellBurstChargeSpeed ["spell", "burst", "charge", "speed"],
    phrase "spell_burst_damage" .spellBurstDamage ["spell", "burst", "damage"],
    ingenuityOverload, reap,
    phrase "reap_cooldown" .reapRecovery ["reaping", "cooldown", "recovery", "speed"],
    phrase "reap_duration" .reapDuration ["reaping", "duration"]]

end CharacterBuild.Affix
