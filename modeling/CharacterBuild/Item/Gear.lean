import CharacterBuild.Affix.Basic

namespace CharacterBuild

inductive Slot where
  | helmet | chest | neck | gloves | belt | boots | leftRing | rightRing | mainHand | offHand
deriving DecidableEq

instance : Named Slot where
  all := [.helmet, .chest, .neck, .gloves, .belt, .boots, .leftRing, .rightRing, .mainHand, .offHand]
  name
    | .helmet => "helmet"
    | .chest => "chest"
    | .neck => "neck"
    | .gloves => "gloves"
    | .belt => "belt"
    | .boots => "boots"
    | .leftRing => "left_ring"
    | .rightRing => "right_ring"
    | .mainHand => "main_hand"
    | .offHand => "off_hand"

structure Weapon (α : Type) where
  minDamage : α
  maxDamage : α
  attackSpeed : α
  critRating : α
deriving DecidableEq

structure Gear (α : Type) where
  slot : Slot
  name : String
  weapon : Option (Weapon α)
  affixes : List String
deriving DecidableEq

namespace Weapon

variable {α : Type} [Number α]

def averageDamage (w : Weapon α) : α :=
  (w.minDamage + w.maxDamage) / 2

def ofValue? (v : Value) : Option (Weapon α) := do
  let r ← Record.ofValue? .json
    [.plain "min_damage", .plain "max_damage", .plain "attack_speed", .defaulted "crit_rating"] v
  some ⟨← r.required? "min_damage" Value.number?, ← r.required? "max_damage" Value.number?,
    ← r.required? "attack_speed" Value.number?, ← r.withDefault? "crit_rating" Value.number? 0⟩

end Weapon

namespace Gear

variable {α : Type}

def sourceId (g : Gear α) : String :=
  "gear:" ++ Named.label g.slot

variable [Number α]

def modifiers (g : Gear α) : List (Modifier α) :=
  g.affixes.flatMap Affix.modifiers

def ofValue? (v : Value) : Option (Gear α) := do
  let r ← Record.ofValue? .json [.plain "slot", .defaulted "name", .defaulted "weapon", .defaulted "affixes"] v
  some ⟨← r.required? "slot" (Named.ofValue? .json), ← r.withDefault? "name" Value.text? "",
    ← r.optional? "weapon" Weapon.ofValue?, ← r.withDefault? "affixes" (Value.list? Value.text?) []⟩

end Gear
end CharacterBuild
