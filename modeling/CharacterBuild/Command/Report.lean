import CharacterBuild.Damage.Offense
import CharacterBuild.Text.Padding

namespace CharacterBuild.Command

open Damage Text

variable {α : Type} [Number α]

def units : List (α × String) :=
  [(1000000000000, "T"), (1000000000, "B"), (1000000, "M"), (1000, "K")]

def amountText (v : α) : String :=
  match (units : List (α × String)).find? fun u => decide (u.1 ≤ Number.abs v) with
  | some (scale, unit) => Number.fixed 2 (v / scale) ++ unit
  | none => Number.fixed 2 v

def row (label : String) (v : α) (details : List String) : String :=
  "  " ++ padRight 13 label ++ " " ++ padLeft 12 (amountText v) ++
    if details.isEmpty then "" else "  (" ++ ", ".intercalate details ++ ")"

def hitRow (label : String) (h : Hit α) : String :=
  row label h.dps
    [Number.fixed 1 (h.critChance * 100) ++ "% crit", "x" ++ Number.fixed 2 h.critDamage ++ " crit dmg",
      Number.fixed 2 h.hitsPerSecond ++ "/s"]

def burstRows (b : Burst α) : List String :=
  row "spell burst" b.dps
      [Number.plain b.maxCharges ++ " charges", Number.fixed 3 b.releasesPerSecond ++ " releases/s"] ::
    b.overload.toList.map fun o => row "overload" o.dps []

def overTimeRow (o : OverTime α) : String :=
  row "persistent" o.dps [Number.fixed 2 o.duration ++ "s"]

def reapRow (r : Reap α) : String :=
  row "reap" r.dps
    ["+" ++ Number.fixed 2 r.recoveryBonus ++ "% recovery", "+" ++ Number.fixed 2 r.durationBonus ++ "% duration"]

def skillRows (e : String × Summary α) : List String :=
  (e.1 ++ ": " ++ amountText e.2.totalDps ++ " dps") ::
    (e.2.attack.toList.map (hitRow "attack") ++ e.2.spell.toList.map (hitRow "spell") ++
      e.2.burst.toList.flatMap burstRows ++ e.2.overTime.toList.map overTimeRow ++
      e.2.reap.toList.map reapRow)

def resistanceRow (d : Defenses α) (t : ResistanceType) : String :=
  let r := d.get t
  let cell (x : α) := padLeft 6 (Number.fixed 1 x)
  "  " ++ padRight 10 (Named.name t) ++ " " ++ cell r.max ++ " / " ++ cell r.potential ++ " / " ++ cell r.actual

def summaryLines (o : Offense α) : List String :=
  (if o.skills.isEmpty then ["No evaluable skills."] else o.skills.flatMap skillRows) ++
    "Resistances (max / potential / actual):" :: Named.all.map (resistanceRow o.defenses)

def real (x : α) : Value :=
  .real (Number.shortest .even x)

def field {β : Type} (name : String) (f : β → Value) (b : Option β) : List (String × Value) :=
  b.toList.map fun b => (name, f b)

def hitValue (h : Hit α) : Value :=
  .table [("baseDamage", real h.baseDamage), ("avgHit", real h.averageHit), ("critChance", real h.critChance),
    ("critDmgMult", real h.critDamage), ("avgHitWithCrit", real h.averageWithCrit),
    ("hitsPerSec", real h.hitsPerSecond), ("avgDps", real h.dps)]

def overloadValue (o : Overload α) : Value :=
  .table [("pct", real o.share), ("avgDps", real o.dps)]

def burstValue (b : Burst α) : Value :=
  .table <| [("maxCharges", real b.maxCharges), ("chargesPerSec", real b.chargesPerSecond),
    ("releasesPerSec", real b.releasesPerSecond), ("burstDmgMult", real b.multiplier), ("avgDps", real b.dps)] ++
    field "ingenuityOverload" overloadValue b.overload

def overTimeValue (o : OverTime α) : Value :=
  .table [("total", real o.dps), ("duration", real o.duration)]

def reapValue (r : Reap α) : Value :=
  .table [("totalReapDps", real r.dps), ("reapCdrBonusPct", real r.recoveryBonus),
    ("reapDurationBonusPct", real r.durationBonus)]

def summaryValue (s : Summary α) : Value :=
  .table <| field "attackDpsSummary" hitValue s.attack ++ field "spellDpsSummary" hitValue s.spell ++
    field "spellBurstDpsSummary" burstValue s.burst ++ field "persistentDpsSummary" overTimeValue s.overTime ++
    field "totalReapDpsSummary" reapValue s.reap ++ [("totalDps", real s.totalDps)]

def resistanceValue (r : Resistance α) : Value :=
  .table [("max", real r.max), ("potential", real r.potential), ("actual", real r.actual)]

def offenseValue (o : Offense α) : Value :=
  .table [("skills", .table (o.skills.map fun e => (e.1, summaryValue e.2))),
    ("defenses", .table (Named.all.map fun t => (Named.name t ++ "Res", resistanceValue (o.defenses.get t))))]

end CharacterBuild.Command
