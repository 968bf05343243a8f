import CharacterBuild.Document.Record
import CharacterBuild.Number.Text

namespace CharacterBuild

structure Constants (α : Type) where
  baseMaxResistance : α
  baseCritDamage : α
  ratingPerFullChance : α
  spellRating : α
  unarmedRating : α
  unarmedSpeed : α
  damagePerPoint : α
  baseChargeRate : α
deriving DecidableEq

inductive ConstantsFault where
  | ratingNotPositive
  | negativeChargeRate
deriving DecidableEq

def ConstantsFault.message : ConstantsFault → String
  | ratingNotPositive => "crit.rating_per_full_chance must be positive"
  | negativeChargeRate => "spell_burst.base_charge_rate must not be negative"

namespace Constants

variable {α : Type} [Number α]

def default : Constants α where
  baseMaxResistance := 60
  baseCritDamage := Number.ofDecimal ⟨15, -1⟩
  ratingPerFullChance := 10000
  spellRating := 500
  unarmedRating := 500
  unarmedSpeed := 1
  damagePerPoint := Number.ofDecimal ⟨5, -3⟩
  baseChargeRate := Number.ofDecimal ⟨5, -1⟩

def fault? (c : Constants α) : Option ConstantsFault :=
  if c.ratingPerFullChance ≤ 0 then some .ratingNotPositive
  else if c.baseChargeRate < 0 then some .negativeChargeRate
  else none

def part? (r : Record) (name : String) (fields : List String) : Option Record :=
  match r.lookup name with
  | none => some []
  | some v => Record.ofValue? .toml (fields.map .defaulted) v

def ofValue? (v : Value) : Option (Constants α) := do
  let r ← Record.ofValue? .toml (["resistances", "crit", "attack", "stats", "spell_burst"].map .defaulted) v
  let resistances ← part? r "resistances" ["base_max"]
  let crit ← part? r "crit" ["base_damage", "rating_per_full_chance", "spell_rating", "unarmed_rating"]
  let attack ← part? r "attack" ["unarmed_speed"]
  let stats ← part? r "stats" ["damage_per_point"]
  let burst ← part? r "spell_burst" ["base_charge_rate"]
  let d : Constants α := default
  some {
    baseMaxResistance := ← resistances.withDefault? "base_max" Value.number? d.baseMaxResistance
    baseCritDamage := ← crit.withDefault? "base_damage" Value.number? d.baseCritDamage
    ratingPerFullChance := ← crit.withDefault? "rating_per_full_chance" Value.number? d.ratingPerFullChance
    spellRating := ← crit.withDefault? "spell_rating" Value.number? d.spellRating
    unarmedRating := ← crit.withDefault? "unarmed_rating" Value.number? d.unarmedRating
    unarmedSpeed := ← attack.withDefault? "unarmed_speed" Value.number? d.unarmedSpeed
    damagePerPoint := ← stats.withDefault? "damage_per_point" Value.number? d.damagePerPoint
    baseChargeRate := ← burst.withDefault? "base_charge_rate" Value.number? d.baseChargeRate }

end Constants
end CharacterBuild
