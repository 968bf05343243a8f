import CharacterBuild.GameData.Basic

namespace CharacterBuild.GameData

variable {α : Type} [Number α]

def hundredths (n : Nat) : α :=
  Number.ofDecimal ⟨n, -2⟩

def skill (name : String) (tags : List SkillTag) (attributes : List Attribute) (addedHundredths : Nat) : Skill α where
  name := name
  tags := tags
  attributes := attributes
  addedEffectiveness := hundredths addedHundredths
  weaponEffectiveness := 1
  baseDamage := none
  castTime := 1
  baseCritRating := none
  persistent := none

def bundledSkills : List (Skill α) :=
  [skill "Frost Spike" [.attack, .projectile, .cold] [.dexterity, .intelligence] 201,
    skill "Berserking Blade" [.attack, .melee, .physical] [.dexterity, .strength] 210,
    skill "Thunder Spike" [.attack, .projectile, .lightning] [.dexterity, .intelligence] 175,
    { skill "Chain Lightning" [.spell, .lightning] [.intelligence] 120 with
      baseDamage := some 50000
      castTime := hundredths 80 },
    { skill "Mind Control" [.spell, .erosion, .persistent] [.intelligence] 100 with
      persistent := some ⟨200000, hundredths 120⟩ },
    skill "[Test] Simple Attack" [.attack] [] 100]

def bundledTemplates : Templates α where
  supports :=
    [⟨"Quick Cast", hundredths 5, [{ effect := .castSpeed, value := hundredths 20 }]⟩,
      ⟨"Critical Strike Damage Increase", hundredths 5,
        [{ effect := .critDamage, value := hundredths 30, additional := true }]⟩,
      ⟨"Added Cold Damage", hundredths 10, [.flatDamage .cold 20 30 .global]⟩,
      ⟨"Persistence", 0,
        [{ effect := .skillDuration, value := hundredths 50 },
          { effect := .damageOverTime, value := hundredths 15, additional := true }]⟩,
      ⟨"Aura Amplification", hundredths 5, [{ effect := .auraEffect, value := hundredths 25 }]⟩]
  passives :=
    [⟨"Precise: Cruelty", hundredths 5,
      [{ effect := .damage, value := hundredths 18, scope := .attack, additional := true },
        { effect := .auraEffect, value := hundredths 1, additional := true,
          per := some ⟨"cruelty_buff", 40⟩, target := .ownSkillOnly, unscalable := true }]⟩]

def bundled : GameData α :=
  ⟨.default, bundledSkills, bundledTemplates⟩

end CharacterBuild.GameData
