import CharacterBuild.Affix.Basic

namespace CharacterBuild

inductive Rarity where
  | rare
  | legendary
deriving DecidableEq

instance : Named Rarity where
  all := [.rare, .legendary]
  name
    | .rare => "rare"
    | .legendary => "legendary"

structure Gauge where
  rarity : Rarity
  affix : String
deriving DecidableEq

structure Prism where
  name : String
  rarity : Rarity
  baseAffix : String
  gauges : List Gauge
deriving DecidableEq

namespace Prism

def sourceId (p : Prism) : String :=
  "prism:" ++ p.name

def baseWord (p : Prism) : String :=
  match p.rarity with
  | .rare => "adds"
  | .legendary => "replaces"

def hasValidBase (p : Prism) : Bool :=
  match Text.words p.baseAffix.toList with
  | [] => true
  | w :: _ => Text.sameLetters (.ofList w) p.baseWord

def maxGauges (p : Prism) : Rarity → Nat
  | .rare => 2
  | .legendary => if p.rarity = .legendary then 1 else 0

def gaugeCount (p : Prism) (r : Rarity) : Nat :=
  p.gauges.countP (·.rarity = r)

def modifiers {α : Type} [Number α] (p : Prism) : List (Modifier α) :=
  (p.baseAffix :: p.gauges.map (·.affix)).flatMap Affix.modifiers

end Prism

def Gauge.ofValue? (v : Value) : Option Gauge := do
  let r ← Record.ofValue? .json [.plain "rarity", .plain "affix"] v
  some ⟨← r.required? "rarity" (Named.ofValue? .json), ← r.required? "affix" Value.text?⟩

def Prism.ofValue? (v : Value) : Option Prism := do
  let r ← Record.ofValue? .json
    [.defaulted "name", .plain "rarity", .defaulted "baseAffix", .defaulted "gaugeAffixes"] v
  some ⟨← r.withDefault? "name" Value.text? "", ← r.required? "rarity" (Named.ofValue? .json),
    ← r.withDefault? "baseAffix" Value.text? "",
    ← r.withDefault? "gaugeAffixes" (Value.list? Gauge.ofValue?) []⟩

end CharacterBuild
