import CharacterBuild.Build.Save
import CharacterBuild.Notice

/-! What a loadout keeps of a save. Slots and names count once, pages have limits, and points fit the tree; whatever is
left out is told of. -/

namespace CharacterBuild.CleanUp

section Firsts

variable {τ κ : Type} [DecidableEq κ] (key : τ → κ)

def firsts : List κ → List τ → List τ
  | _, [] => []
  | seen, x :: xs => if key x ∈ seen then firsts seen xs else x :: firsts (key x :: seen) xs

def repeats : List κ → List τ → List τ
  | _, [] => []
  | seen, x :: xs => if key x ∈ seen then x :: repeats seen xs else repeats (key x :: seen) xs

end Firsts

def maxActive : Nat := 4
def maxPassive : Nat := 4
def maxSupports : Nat := 5

/-! ## Gear -/

def gear {α : Type} (gs : List (Gear α)) : List (Gear α) :=
  firsts (·.slot) [] gs

def gearNotices {α : Type} (gs : List (Gear α)) : List Notice :=
  (repeats (·.slot) [] gs).map fun g => .slotFilled g.slot g.name

/-! ## Skills -/

def supports (ss : List SupportSkill) : List SupportSkill :=
  (firsts (·.name) [] ss).take maxSupports

def supportNotices (skill : String) (ss : List SupportSkill) : List Notice :=
  let kept := firsts (·.name) [] ss
  (repeats (·.name) [] ss).map (.supportRepeated ·.name) ++
    if maxSupports < kept.length then [.supportsDropped skill kept.length] else []

def skills (limit : Nat) (ss : List SkillUse) : List SkillUse :=
  ((firsts (·.name) [] ss).take limit).map fun s => { s with supports := supports s.supports }

def skillNotices (role : SkillRole) (limit : Nat) (ss : List SkillUse) : List Notice :=
  let kept := firsts (·.name) [] ss
  (repeats (·.name) [] ss).map (.skillRepeated role ·.name) ++
    (if limit < kept.length then [.skillsDropped role kept.length limit] else []) ++
    (kept.take limit).flatMap fun s => supportNotices s.name s.supports

/-! ## Prisms -/

def capGauges (r : Rarity) : Nat → List Gauge → List Gauge
  | _, [] => []
  | n, g :: gs =>
    if g.rarity = r then
      match n with
      | 0 => capGauges r 0 gs
      | n + 1 => g :: capGauges r n gs
    else g :: capGauges r n gs

def prism (p : Prism) : Prism :=
  let base := if p.hasValidBase then p.baseAffix else ""
  let gauges := capGauges .legendary (p.maxGauges .legendary) (capGauges .rare (p.maxGauges .rare) p.gauges)
  { p with baseAffix := base, gauges }

def prismNotices (p : Prism) : List Notice :=
  (if p.hasValidBase then [] else [.baseDropped p.name p.rarity p.baseWord]) ++
    [Rarity.rare, .legendary].flatMap fun r =>
      if p.maxGauges r < p.gaugeCount r then [.gaugesDropped p.name r (p.gaugeCount r) (p.maxGauges r)]
      else []

/-! ## Allocations -/

def entry (t : Tree) (a : Allocation) (e : Position × UInt32) : Allocation :=
  match t.nodeAt? e.1 with
  | some n => a.set e.1 (min e.2 n.maxPoints)
  | none => a

def allocation (t : Tree) (a : Allocation) : Allocation :=
  a.entries.foldl (entry t) .empty

def allocationNotices (name : TreeName) (t : Tree) (a : Allocation) : List Notice :=
  a.entries.flatMap fun e =>
    match t.nodeAt? e.1 with
    | some n => if n.maxPoints < e.2 then [.pointsClamped name e.1 e.2 n.maxPoints] else []
    | none => [.pointsDropped name e.1]

end CharacterBuild.CleanUp
