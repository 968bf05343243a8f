import CharacterBuild.Item.Gear
import CharacterBuild.Item.Prism
import CharacterBuild.Talent.Tree
import CharacterBuild.Talent.TreeName

namespace CharacterBuild

inductive SkillRole where
  | active
  | passive
deriving DecidableEq

def SkillRole.noun : SkillRole → String
  | active => "active skill"
  | passive => "passive skill"

inductive Notice where
  | fetchingTree (t : TreeName)
  | pointsWithoutNode (t : TreeName) (p : Position)
  | pointsDropped (t : TreeName) (p : Position)
  | pointsClamped (t : TreeName) (p : Position) (points max : UInt32)
  | slotFilled (slot : Slot) (name : String)
  | skillRepeated (role : SkillRole) (name : String)
  | supportRepeated (name : String)
  | skillsDropped (role : SkillRole) (count max : Nat)
  | supportsDropped (skill : String) (count : Nat)
  | baseDropped (prism : String) (rarity : Rarity) (expected : String)
  | gaugesDropped (prism : String) (rarity : Rarity) (count max : Nat)
deriving DecidableEq

namespace Notice

def message : Notice → String
  | fetchingTree _ => "fetching talent tree"
  | pointsWithoutNode .. => "allocated position has no node"
  | pointsDropped .. => "allocated position has no node, dropping"
  | pointsClamped .. => "allocation exceeds node max, clamping"
  | slotFilled .. => "slot already filled, ignoring gear"
  | skillRepeated role _ => role.noun ++ " already selected, ignoring repeat"
  | supportRepeated _ => "support already selected, ignoring repeat"
  | skillsDropped role .. => "too many " ++ role.noun ++ "s, ignoring extras"
  | supportsDropped .. => "too many supports, ignoring extras"
  | baseDropped .. => "base affix does not match prism rarity, dropping it"
  | gaugesDropped .. => "too many gauge affixes, ignoring extras"

def fields : Notice → List (String × String)
  | fetchingTree t => [("tree", Named.name t)]
  | pointsWithoutNode t p => [("tree", Named.name t), ("x", p.x.toNat.repr), ("y", p.y.toNat.repr)]
  | pointsDropped t p => [("tree", Named.name t), ("x", p.x.toNat.repr), ("y", p.y.toNat.repr)]
  | pointsClamped t p points max =>
    [("tree", Named.name t), ("x", p.x.toNat.repr), ("y", p.y.toNat.repr), ("points", points.toNat.repr),
      ("max", max.toNat.repr)]
  | slotFilled slot name => [("slot", Named.label slot), ("name", name)]
  | skillRepeated _ name => [("name", name)]
  | supportRepeated name => [("name", name)]
  | skillsDropped _ count max => [("count", count.repr), ("max", max.repr)]
  | supportsDropped skill count => [("skill", skill), ("count", count.repr)]
  | baseDropped prism rarity expected =>
    [("prism", prism), ("rarity", Named.name rarity), ("expected", expected)]
  | gaugesDropped prism rarity count max =>
    [("prism", prism), ("rarity", Named.name rarity), ("count", count.repr), ("max", max.repr)]

def isWarning : Notice → Bool
  | fetchingTree _ => false
  | _ => true

def text (n : Notice) : String :=
  (if n.isWarning then "WARN " else "INFO ") ++ n.message ++
    .join (n.fields.map fun f => " " ++ f.1 ++ "=" ++ f.2)

end Notice

end CharacterBuild
