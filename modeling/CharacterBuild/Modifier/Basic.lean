import CharacterBuild.Modifier.Effect

namespace CharacterBuild

structure Stacking where
  stackable : String
  limit : UInt32
deriving DecidableEq

inductive Target where
  | build
  | ownSkillOnly
deriving DecidableEq

instance : Named Target where
  all := [.build, .ownSkillOnly]
  name
    | .build => "build"
    | .ownSkillOnly => "own_skill_only"

/-- Additional modifiers add up; the others multiply. -/
structure Modifier (α : Type) where
  effect : Effect α
  value : α
  scope : Scope := .global
  additional : Bool := false
  per : Option Stacking := none
  target : Target := .build
  unscalable : Bool := false
deriving DecidableEq

namespace Modifier

variable {α : Type}

abbrev stat (m : Modifier α) : Stat :=
  m.effect.stat

def isBuildWide (m : Modifier α) : Bool :=
  m.target = .build

def scopeAccepted (m : Modifier α) : Bool :=
  m.stat.accepts m.scope

variable [Number α]

def flatDamage (type : DamageType) (min max : α) (scope : Scope) : Modifier α where
  effect := .flatDamage type min max
  value := (min + max) / 2
  scope := scope
  additional := true

def scaled (m : Modifier α) (factor : α) : Modifier α :=
  { m with
    value := m.value * factor
    effect := match m.effect with
      | .flatDamage type min max => .flatDamage type (min * factor) (max * factor)
      | e => e }

def stackedValue (m : Modifier α) (count : UInt32) : α :=
  match m.per with
  | some per => m.value * ((min count.toNat per.limit.toNat : Nat) : α)
  | none => m.value

end Modifier

def Stacking.ofValue? (n : Notation) (v : Value) : Option Stacking := do
  let r ← Record.ofValue? n [.plain "stackable", .plain "limit"] v
  some ⟨← r.required? "stackable" Value.text?, ← r.required? "limit" Value.count?⟩

def Stacking.toValue (p : Stacking) : Value :=
  .table [("stackable", .text p.stackable), ("limit", .integer p.limit.toNat)]

namespace Modifier

variable {α : Type} [Number α]

def fields : List Field :=
  ["value", "mod_type", "addn", "per", "target", "unscalable"].map .plain

/-- The effect stands among the other fields, so all of them are set aside for it, and there is no list form. -/
def ofValue? (n : Notation) : Value → Option (Modifier α)
  | .table entries => do
    let rest := entries.filter fun e => !(fields.any (·.name == e.1))
    guard (rest.all (n.setsAside ·.2))
    let r ← Record.ofTable? fields entries
    some {
      effect := ← Effect.ofFields? (Effect.typeName? n) rest
      value := ← r.required? "value" Value.number?
      scope := ← r.withDefault? "mod_type" (Named.ofValue? n) .global
      additional := ← r.withDefault? "addn" Value.bool? false
      per := ← r.optional? "per" (Stacking.ofValue? n)
      target := ← r.withDefault? "target" (Named.ofValue? n) .build
      unscalable := ← r.withDefault? "unscalable" Value.bool? false }
  | _ => none

def toValue (m : Modifier α) : Value :=
  .table <| ("type", .text m.stat.name) :: m.effect.fields ++
    [("value", .real (Number.shortest .even m.value)), ("mod_type", .text (Named.name m.scope)),
      ("addn", .bool m.additional)] ++
    (m.per.toList.map fun per => ("per", per.toValue)) ++
    [("target", .text (Named.name m.target)), ("unscalable", .bool m.unscalable)]

end Modifier
end CharacterBuild
