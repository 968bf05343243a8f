import CharacterBuild.Build.Configuration
import CharacterBuild.Document.Json
import CharacterBuild.Item.Gear
import CharacterBuild.Item.Prism
import CharacterBuild.Item.Ring
import CharacterBuild.Talent.Allocation
import CharacterBuild.Talent.TreeName

namespace CharacterBuild

structure SupportSkill where
  name : String
  level : UInt32
deriving DecidableEq

structure SkillUse where
  name : String
  level : UInt32
  enabled : Bool
  supports : List SupportSkill
deriving DecidableEq

structure SavedPage where
  tree : TreeName
  allocated : Allocation
deriving DecidableEq

structure Save (α : Type) where
  gear : List (Gear α)
  talents : List SavedPage
  active : List SkillUse
  passive : List SkillUse
  prisms : List Prism
  rings : List Ring
  configuration : Configuration
deriving DecidableEq

def SupportSkill.ofValue? (v : Value) : Option SupportSkill := do
  let r ← Record.ofValue? .json [.plain "name", .defaulted "level"] v
  some ⟨← r.required? "name" Value.text?, ← r.withDefault? "level" Value.count? 1⟩

def SkillUse.ofValue? (v : Value) : Option SkillUse := do
  let r ← Record.ofValue? .json [.plain "name", .defaulted "level", .defaulted "enabled", .defaulted "supports"] v
  some ⟨← r.required? "name" Value.text?, ← r.withDefault? "level" Value.count? 1,
    ← r.withDefault? "enabled" Value.bool? true,
    ← r.withDefault? "supports" (Value.list? SupportSkill.ofValue?) []⟩

def SavedPage.ofValue? (v : Value) : Option SavedPage := do
  let r ← Record.ofValue? .json [.plain "tree", .defaulted "allocated"] v
  some ⟨← r.required? "tree" TreeName.ofValue?, ← r.withDefault? "allocated" Allocation.ofValue? .empty⟩

def skillPage? (v : Value) : Option (List SkillUse × List SkillUse) := do
  let r ← Record.ofValue? .json [.defaulted "active", .defaulted "passive"] v
  some (← r.withDefault? "active" (Value.list? SkillUse.ofValue?) [],
    ← r.withDefault? "passive" (Value.list? SkillUse.ofValue?) [])

namespace Save

variable {α : Type} [Number α]

def ofValue? (v : Value) : Option (Save α) := do
  let r ← Record.ofValue? .json
    (["equipmentPage", "talentPage", "skillPage", "prismPage", "pactspiritPage", "configurationPage"].map
      .defaulted) v
  let (active, passive) ← r.withDefault? "skillPage" skillPage? ([], [])
  some {
    gear := ← r.withDefault? "equipmentPage" (Value.list? Gear.ofValue?) []
    talents := ← r.withDefault? "talentPage" (Value.list? SavedPage.ofValue?) []
    active, passive
    prisms := ← r.withDefault? "prismPage" (Value.list? Prism.ofValue?) []
    rings := ← r.withDefault? "pactspiritPage" (Value.list? Ring.ofValue?) []
    configuration := ← r.withDefault? "configurationPage" Configuration.ofValue? .empty }

def read? (text : String) : Option (Save α) :=
  Json.read? text >>= ofValue?

end Save
end CharacterBuild
