import CharacterBuild.Document.Record
import CharacterBuild.Modifier.Scope
import CharacterBuild.Number.Text

/-! What a modifier changes. An effect carries the data of its own kind; the stat is the kind alone, under which
modifiers are added up. -/

namespace CharacterBuild

inductive Stat where
  | damage | damageOverTime | critRating | critDamage | attackSpeed | castSpeed | auraEffect | skillDuration
  | resistance | maxResistance
  | attributePoints (a : Attribute)
  | attributePercent (a : Attribute)
  | flatDamage | maxSpellBurst | spellBurstChargeSpeed | spellBurstDamage | ingenuityOverload
  | reap | reapRecovery | reapDuration
deriving DecidableEq

inductive Effect (α : Type) where
  | damage | damageOverTime | critRating | critDamage | attackSpeed | castSpeed | auraEffect | skillDuration
  | resistance | maxResistance
  | attributePoints (a : Attribute)
  | attributePercent (a : Attribute)
  | flatDamage (type : DamageType) (min max : α)
  | maxSpellBurst | spellBurstChargeSpeed | spellBurstDamage | ingenuityOverload
  | reap (cooldown : α)
  | reapRecovery | reapDuration
deriving DecidableEq

namespace Stat

def name : Stat → String
  | damage => "DmgPct"
  | damageOverTime => "DotDmgPct"
  | critRating => "CritRatingPct"
  | critDamage => "CritDmgPct"
  | attackSpeed => "AspdPct"
  | castSpeed => "CspdPct"
  | auraEffect => "AuraEffPct"
  | skillDuration => "SkillDurationPct"
  | resistance => "ResPct"
  | maxResistance => "MaxResPct"
  | attributePoints _ => "Stat"
  | attributePercent _ => "StatPct"
  | flatDamage => "FlatDmg"
  | maxSpellBurst => "MaxSpellBurst"
  | spellBurstChargeSpeed => "SpellBurstChargeSpeedPct"
  | spellBurstDamage => "SpellBurstDmgPct"
  | ingenuityOverload => "IngenuityOverloadPct"
  | reap => "Reap"
  | reapRecovery => "ReapCdrPct"
  | reapDuration => "ReapDurationPct"

def label : Stat → String
  | attributePoints a => "Stat(" ++ Named.label a ++ ")"
  | attributePercent a => "StatPct(" ++ Named.label a ++ ")"
  | s => s.name

def acceptedScopes : Stat → List Scope
  | damage | damageOverTime => Named.all
  | critRating | critDamage | flatDamage => [.global, .attack, .spell]
  | resistance | maxResistance => [.global, .cold, .lightning, .fire, .erosion, .elemental]
  | _ => [.global]

def accepts (s : Stat) (scope : Scope) : Bool :=
  s.acceptedScopes.contains scope

end Stat

namespace Effect

variable {α : Type}

def stat : Effect α → Stat
  | damage => .damage
  | damageOverTime => .damageOverTime
  | critRating => .critRating
  | critDamage => .critDamage
  | attackSpeed => .attackSpeed
  | castSpeed => .castSpeed
  | auraEffect => .auraEffect
  | skillDuration => .skillDuration
  | resistance => .resistance
  | maxResistance => .maxResistance
  | attributePoints a => .attributePoints a
  | attributePercent a => .attributePercent a
  | flatDamage .. => .flatDamage
  | maxSpellBurst => .maxSpellBurst
  | spellBurstChargeSpeed => .spellBurstChargeSpeed
  | spellBurstDamage => .spellBurstDamage
  | ingenuityOverload => .ingenuityOverload
  | reap _ => .reap
  | reapRecovery => .reapRecovery
  | reapDuration => .reapDuration

variable [Number α]

def described : Effect α → String
  | attributePoints a => "Stat \x7b stat: " ++ Named.label a ++ " \x7d"
  | attributePercent a => "StatPct \x7b stat: " ++ Named.label a ++ " \x7d"
  | flatDamage t min max =>
    "FlatDmg \x7b dmg_type: " ++ Named.label t ++ ", min: " ++ Number.described min ++ ", max: " ++
      Number.described max ++ " \x7d"
  | reap cooldown => "Reap \x7b cooldown: " ++ Number.described cooldown ++ " \x7d"
  | e => e.stat.name

def bare : List (Effect α) :=
  [damage, damageOverTime, critRating, critDamage, attackSpeed, castSpeed, auraEffect, skillDuration,
    resistance, maxResistance, maxSpellBurst, spellBurstChargeSpeed, spellBurstDamage, ingenuityOverload,
    reapRecovery, reapDuration]

def fieldsOf : String → List Field
  | "Stat" | "StatPct" => [.plain "stat"]
  | "FlatDmg" => [.plain "dmg_type", .plain "min", .plain "max"]
  | "Reap" => [.plain "cooldown"]
  | _ => []

def typeNames : List String :=
  ["DmgPct", "DotDmgPct", "CritRatingPct", "CritDmgPct", "AspdPct", "CspdPct", "AuraEffPct", "SkillDurationPct",
    "ResPct", "MaxResPct", "Stat", "StatPct", "FlatDmg", "MaxSpellBurst", "SpellBurstChargeSpeedPct",
    "SpellBurstDmgPct", "IngenuityOverloadPct", "Reap", "ReapCdrPct", "ReapDurationPct"]

def typeName? : Notation → Value → Option String
  | _, .text s => some s
  | .json, v => do typeNames[(← v.count?).toNat]?
  | .toml, _ => none

def ofRecord? (type : String) (r : Record) : Option (Effect α) := do
  match type with
  | "Stat" => attributePoints <$> r.required? "stat" Named.ofAside?
  | "StatPct" => attributePercent <$> r.required? "stat" Named.ofAside?
  | "FlatDmg" =>
    some <| flatDamage (← r.required? "dmg_type" Named.ofAside?) (← r.required? "min" Value.number?)
      (← r.required? "max" Value.number?)
  | "Reap" => reap <$> r.required? "cooldown" Value.number?
  | _ => bare.find? fun e => e.stat.name == type

def ofFields? (type? : Value → Option String) (entries : List (String × Value)) : Option (Effect α) := do
  let tag ← Record.ofTable? [.plain "type"] entries
  let type ← tag.required? "type" type?
  ofRecord? type (← Record.ofTable? (fieldsOf type) entries)

def ofValue? : Value → Option (Effect α)
  | .table entries => ofFields? Value.text? entries
  | .list (.text type :: items) => do ofRecord? type (← Record.ofList? (fieldsOf type) items)
  | _ => none

def fields : Effect α → List (String × Value)
  | attributePoints a => [("stat", .text (Named.name a))]
  | attributePercent a => [("stat", .text (Named.name a))]
  | flatDamage t min max =>
    [("dmg_type", .text (Named.name t)), ("min", .real (Number.shortest .even min)),
      ("max", .real (Number.shortest .even max))]
  | reap cooldown => [("cooldown", .real (Number.shortest .even cooldown))]
  | _ => []

end Effect
end CharacterBuild
