import CharacterBuild.Build.CleanUp
import CharacterBuild.Talent.Library

/-! A loadout: the build that a save describes, with its trees at hand and within the rules. Only a tree that fails to
load keeps a save from becoming one. -/

namespace CharacterBuild

structure TalentPage where
  name : TreeName
  tree : Tree
  allocation : Allocation
deriving DecidableEq

structure Loadout (α : Type) where
  gear : List (Gear α)
  talents : List TalentPage
  active : List SkillUse
  passive : List SkillUse
  prisms : List Prism
  rings : List Ring
deriving DecidableEq

namespace TalentPage

def load {ε : Type} (fetch : Fetcher ε) : TreeCache → List SavedPage → Outcome ε (List TalentPage)
  | c, [] => ⟨.ok [], c, []⟩
  | c, p :: ps =>
    match c.load fetch p.tree with
    | ⟨.error e, c, told⟩ => ⟨.error e, c, told⟩
    | ⟨.ok tree, c, told⟩ =>
      let page := ⟨p.tree, tree, CleanUp.allocation tree p.allocated⟩
      let rest := load fetch c ps
      ⟨(page :: ·) <$> rest.result, rest.cache,
        told ++ CleanUp.allocationNotices p.tree tree p.allocated ++ rest.notices⟩

end TalentPage

namespace Loadout

variable {α : Type}

def gearIn? (l : Loadout α) (s : Slot) : Option (Gear α) :=
  l.gear.find? (·.slot = s)

def enabledActive (l : Loadout α) : List SkillUse :=
  l.active.filter (·.enabled)

def enabledPassive (l : Loadout α) : List SkillUse :=
  l.passive.filter (·.enabled)

def assemble (s : Save α) (talents : List TalentPage) : Loadout α where
  gear := CleanUp.gear s.gear
  talents
  active := CleanUp.skills CleanUp.maxActive s.active
  passive := CleanUp.skills CleanUp.maxPassive s.passive
  prisms := s.prisms.map CleanUp.prism
  rings := s.rings

def assemblyNotices (s : Save α) : List Notice :=
  CleanUp.gearNotices s.gear ++
    CleanUp.skillNotices .active CleanUp.maxActive s.active ++
    CleanUp.skillNotices .passive CleanUp.maxPassive s.passive ++
    s.prisms.flatMap CleanUp.prismNotices

def ofSave {ε : Type} (fetch : Fetcher ε) (c : TreeCache) (s : Save α) : Outcome ε (Loadout α) :=
  let pages := TalentPage.load fetch c s.talents
  match pages.result with
  | .error e => ⟨.error e, pages.cache, pages.notices⟩
  | .ok talents => ⟨.ok (assemble s talents), pages.cache, pages.notices ++ assemblyNotices s⟩

def toSave (l : Loadout α) (c : Configuration) : Save α where
  gear := l.gear
  talents := l.talents.map fun p => ⟨p.name, p.allocation⟩
  active := l.active
  passive := l.passive
  prisms := l.prisms
  rings := l.rings
  configuration := c

end Loadout
end CharacterBuild
