import CharacterBuild.Document.Name

namespace CharacterBuild

inductive TreeName where
  | godOfWar | godOfMight | godOfMachines | goddessOfHunting | goddessOfKnowledge | goddessOfDeception
  | warrior | warlord | onslaughter | theBrave | marksman | bladerunner | druid | assassin | magister
  | arcanist | elementalist | prophet | shadowdancer | ranger | sentinel | shadowmaster | psychic
  | warlock | lich | machinist | steelVanguard | alchemist | artisan | ronin
deriving DecidableEq

namespace TreeName

instance : Named TreeName where
  all :=
    [.godOfWar, .godOfMight, .godOfMachines, .goddessOfHunting, .goddessOfKnowledge,
      .goddessOfDeception, .warrior, .warlord, .onslaughter, .theBrave, .marksman, .bladerunner,
      .druid, .assassin, .magister, .arcanist, .elementalist, .prophet, .shadowdancer, .ranger,
      .sentinel, .shadowmaster, .psychic, .warlock, .lich, .machinist, .steelVanguard, .alchemist,
      .artisan, .ronin]
  name
    | .godOfWar => "God_of_War"
    | .godOfMight => "God_of_Might"
    | .godOfMachines => "God_of_Machines"
    | .goddessOfHunting => "Goddess_of_Hunting"
    | .goddessOfKnowledge => "Goddess_of_Knowledge"
    | .goddessOfDeception => "Goddess_of_Deception"
    | .warrior => "Warrior"
    | .warlord => "Warlord"
    | .onslaughter => "Onslaughter"
    | .theBrave => "The_Brave"
    | .marksman => "Marksman"
    | .bladerunner => "Bladerunner"
    | .druid => "Druid"
    | .assassin => "Assassin"
    | .magister => "Magister"
    | .arcanist => "Arcanist"
    | .elementalist => "Elementalist"
    | .prophet => "Prophet"
    | .shadowdancer => "Shadowdancer"
    | .ranger => "Ranger"
    | .sentinel => "Sentinel"
    | .shadowmaster => "Shadowmaster"
    | .psychic => "Psychic"
    | .warlock => "Warlock"
    | .lich => "Lich"
    | .machinist => "Machinist"
    | .steelVanguard => "Steel_Vanguard"
    | .alchemist => "Alchemist"
    | .artisan => "Artisan"
    | .ronin => "Ronin"

def isGod : TreeName → Bool
  | .godOfWar | .godOfMight | .godOfMachines
  | .goddessOfHunting | .goddessOfKnowledge | .goddessOfDeception => true
  | _ => false

def fileSuffix : String := "_tree.json"

def fileName (t : TreeName) : String :=
  .ofList ((Named.name t).toList.map Char.toLower) ++ fileSuffix

def ofFileName? (file : String) : Option TreeName := do
  let stem ← fileSuffix.toList.reverse.isPrefixOf? file.toList.reverse
  Named.ofWord? (.ofList stem.reverse)

def ofValue? : Value → Option TreeName
  | .text s => Named.ofWord? s
  | _ => none

end TreeName
end CharacterBuild
