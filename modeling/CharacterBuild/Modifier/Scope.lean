import CharacterBuild.Document.Name

namespace CharacterBuild

inductive Scope where
  | global | melee | area | attack | spell | physical | cold | lightning | fire | erosion | elemental
deriving DecidableEq

inductive DamageType where
  | physical | cold | lightning | fire | erosion
deriving DecidableEq

inductive ResistanceType where
  | cold | lightning | fire | erosion
deriving DecidableEq

inductive Attribute where
  | strength | dexterity | intelligence
deriving DecidableEq

instance : Named Scope where
  all := [.global, .melee, .area, .attack, .spell, .physical, .cold, .lightning, .fire, .erosion, .elemental]
  name
    | .global => "global"
    | .melee => "melee"
    | .area => "area"
    | .attack => "attack"
    | .spell => "spell"
    | .physical => "physical"
    | .cold => "cold"
    | .lightning => "lightning"
    | .fire => "fire"
    | .erosion => "erosion"
    | .elemental => "elemental"

namespace Scope

def appliesTo (s t : Scope) : Bool :=
  s = .global || s = t

def isElemental : Scope → Bool
  | .cold | .lightning | .fire => true
  | _ => false

end Scope

namespace DamageType

def scope : DamageType → Scope
  | .physical => .physical
  | .cold => .cold
  | .lightning => .lightning
  | .fire => .fire
  | .erosion => .erosion

instance : Named DamageType where
  all := [.physical, .cold, .lightning, .fire, .erosion]
  name t := Named.name t.scope

end DamageType

namespace ResistanceType

def scopes : ResistanceType → List Scope
  | .cold => [.cold, .elemental]
  | .lightning => [.lightning, .elemental]
  | .fire => [.fire, .elemental]
  | .erosion => [.erosion]

instance : Named ResistanceType where
  all := [.cold, .lightning, .fire, .erosion]
  name
    | .cold => "cold"
    | .lightning => "lightning"
    | .fire => "fire"
    | .erosion => "erosion"

end ResistanceType

namespace Attribute

instance : Named Attribute where
  all := [.strength, .dexterity, .intelligence]
  name
    | .strength => "str"
    | .dexterity => "dex"
    | .intelligence => "int"

def fullName : Attribute → String
  | .strength => "strength"
  | .dexterity => "dexterity"
  | .intelligence => "intelligence"

def ofWord? (s : String) : Option Attribute :=
  Named.all.find? fun a => Text.sameLetters s (Named.name a) || Text.sameLetters s a.fullName

end Attribute
end CharacterBuild
