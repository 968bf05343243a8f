import CharacterBuild.Build.Loadout
import CharacterBuild.GameData.Basic
import CharacterBuild.Stats.Aggregate

namespace CharacterBuild

variable {α : Type} [Number α]

namespace TalentPage

def sourceId (p : TalentPage) : String :=
  "talent:" ++ Named.name p.name

def modifiersAt (t : Tree) (e : Position × UInt32) : List (Modifier α) :=
  match t.nodeAt? e.1 with
  | some n => (Affix.modifiers n.rawAffix).map (·.scaled (e.2.toNat : α))
  | none => []

def modifiers (p : TalentPage) : List (Modifier α) :=
  p.allocation.entries.flatMap (modifiersAt p.tree)

def notices (p : TalentPage) : List Notice :=
  (p.allocation.entries.filter fun e => (p.tree.nodeAt? e.1).isNone).map (.pointsWithoutNode p.name ·.1)

end TalentPage

namespace Configuration

def sourceId : String := "custom"

def modifiers (c : Configuration) : List (Modifier α) :=
  c.customAffixes.flatMap Affix.modifiers

end Configuration

namespace Loadout

def baseModifiers (l : Loadout α) (c : Configuration) : List (Modifier α) :=
  (l.gear.flatMap Gear.modifiers ++ l.talents.flatMap TalentPage.modifiers ++
    l.prisms.flatMap Prism.modifiers ++ l.rings.flatMap Ring.modifiers ++ c.modifiers).filter (·.isBuildWide)

end Loadout

namespace Templates

def supportModifiers (ts : Templates α) (ss : List SupportSkill) : List (Modifier α) :=
  ss.flatMap fun s => ((ts.support? s.name).map (·.atLevel s.level)).getD []

end Templates

structure Aura (α : Type) where
  buff : List (Modifier α)
  multiplier : α

namespace Aura

def of (base : List (Modifier α)) (c : Configuration) (t : Template α) (level : UInt32)
    (supports : List (Modifier α)) : Aura α :=
  let granted := t.atLevel level
  let own := granted.filter (!·.isBuildWide)
  { buff := granted.filter (·.isBuildWide)
    multiplier := (Pool.resolveGlobal ⟨base ++ own ++ supports, c⟩ .auraEffect).multiplier }

def modifiers (a : Aura α) : List (Modifier α) :=
  a.buff.map fun m => if m.unscalable then m else m.scaled a.multiplier

end Aura

namespace Loadout

def passiveBlock (base : List (Modifier α)) (c : Configuration) (ts : Templates α) (s : SkillUse) :
    List (Modifier α) :=
  match ts.passive? s.name with
  | some t => (Aura.of base c t s.level (ts.supportModifiers s.supports)).modifiers
  | none => []

/-- The base of the build and a block for each enabled passive. No passive sees the block of another. -/
def pool (l : Loadout α) (c : Configuration) (ts : Templates α) : List (Modifier α) :=
  let base := l.baseModifiers c
  base ++ l.enabledPassive.flatMap (passiveBlock base c ts)

def skillPool (pool : List (Modifier α)) (ts : Templates α) (s : SkillUse) : List (Modifier α) :=
  pool ++ ts.supportModifiers s.supports

end Loadout
end CharacterBuild
