import CharacterBuild.Document.Record
import CharacterBuild.Modifier.Scope

namespace CharacterBuild

inductive SkillTag where
  | attack | spell | melee | area | projectile | persistent | physical | cold | lightning | fire | erosion
deriving DecidableEq

inductive Delivery where
  | attack
  | spell
deriving DecidableEq

instance : Named SkillTag where
  all :=
    [.attack, .spell, .melee, .area, .projectile, .persistent, .physical, .cold, .lightning, .fire, .erosion]
  name
    | .attack => "attack"
    | .spell => "spell"
    | .melee => "melee"
    | .area => "area"
    | .projectile => "projectile"
    | .persistent => "persistent"
    | .physical => "physical"
    | .cold => "cold"
    | .lightning => "lightning"
    | .fire => "fire"
    | .erosion => "erosion"

instance : Named Delivery where
  all := [.attack, .spell]
  name
    | .attack => "attack"
    | .spell => "spell"

def SkillTag.damageType? : SkillTag → Option DamageType
  | .physical => some .physical
  | .cold => some .cold
  | .lightning => some .lightning
  | .fire => some .fire
  | .erosion => some .erosion
  | _ => none

def Delivery.scope : Delivery → Scope
  | .attack => .attack
  | .spell => .spell

structure Persistent (α : Type) where
  baseDps : α
  duration : α
deriving DecidableEq

structure Skill (α : Type) where
  name : String
  tags : List SkillTag
  attributes : List Attribute
  addedEffectiveness : α
  weaponEffectiveness : α
  baseDamage : Option α
  castTime : α
  baseCritRating : Option α
  persistent : Option (Persistent α)
deriving DecidableEq

inductive SkillFault where
  | negativeEffectiveness (name : String)
  | nonPositiveCastTime (name : String)
  | negativePersistent (name : String)
  | duplicate (name : String)
deriving DecidableEq

def SkillFault.message : SkillFault → String
  | negativeEffectiveness s => "skill '" ++ s ++ "' has a negative damage effectiveness"
  | nonPositiveCastTime s => "skill '" ++ s ++ "' has a non-positive cast time"
  | negativePersistent s => "skill '" ++ s ++ "' has a negative persistent damage entry"
  | duplicate s => "duplicate skill configuration '" ++ s ++ "'"

namespace Skill

variable {α : Type}

/-- A skill with both tags is an attack. -/
def delivery? (s : Skill α) : Option Delivery :=
  if .attack ∈ s.tags then some .attack
  else if .spell ∈ s.tags then some .spell
  else none

def damageScopes (s : Skill α) : List Scope :=
  s.tags.filterMap fun t => t.damageType?.map (·.scope)

def scopes (s : Skill α) : List Scope :=
  .global :: (s.delivery?.map Delivery.scope).toList ++
    (if .melee ∈ s.tags then [.melee] else []) ++ (if .area ∈ s.tags then [.area] else []) ++
    s.damageScopes ++ (if s.damageScopes.any Scope.isElemental then [.elemental] else [])

variable [Number α]

def fault? (s : Skill α) : Option SkillFault :=
  if s.addedEffectiveness < 0 ∨ s.weaponEffectiveness < 0 then some (.negativeEffectiveness s.name)
  else if s.castTime ≤ 0 then some (.nonPositiveCastTime s.name)
  else match s.persistent with
    | some p => if p.baseDps < 0 ∨ p.duration < 0 then some (.negativePersistent s.name) else none
    | none => none

def firstFault? : List String → List (Skill α) → Option SkillFault
  | _, [] => none
  | seen, s :: ss =>
    s.fault? <|> (if s.name ∈ seen then some (.duplicate s.name) else none) <|>
      firstFault? (s.name :: seen) ss

end Skill

variable {α : Type} [Number α]

def Persistent.ofValue? (v : Value) : Option (Persistent α) := do
  let r ← Record.ofValue? .toml [.plain "base_dps", .plain "duration"] v
  some ⟨← r.required? "base_dps" Value.number?, ← r.required? "duration" Value.number?⟩

namespace Skill

def ofValue? (v : Value) : Option (Skill α) := do
  let r ← Record.ofValue? .toml
    [.plain "name", .defaulted "tags", .defaulted "stats", .plain "added_dmg_eff_pct",
      .defaulted "weapon_dmg_pct", .defaulted "base_damage", .defaulted "cast_time",
      .defaulted "base_crit_rating", .defaulted "persistent"] v
  some {
    name := ← r.required? "name" Value.text?
    tags := ← r.withDefault? "tags" (Value.list? (Named.ofValue? .toml)) []
    attributes := ← r.withDefault? "stats" (Value.list? (Named.ofValue? .toml)) []
    addedEffectiveness := ← r.required? "added_dmg_eff_pct" Value.number?
    weaponEffectiveness := ← r.withDefault? "weapon_dmg_pct" Value.number? 1
    baseDamage := ← r.optional? "base_damage" Value.number?
    castTime := ← r.withDefault? "cast_time" Value.number? 1
    baseCritRating := ← r.optional? "base_crit_rating" Value.number?
    persistent := ← r.optional? "persistent" Persistent.ofValue? }

def listOfValue? (v : Value) : Option (List (Skill α)) := do
  let r ← Record.ofValue? .toml [.defaulted "skills"] v
  r.withDefault? "skills" (Value.list? ofValue?) []

end Skill
end CharacterBuild
