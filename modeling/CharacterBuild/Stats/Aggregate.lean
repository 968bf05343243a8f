import CharacterBuild.Build.Configuration

namespace CharacterBuild

variable {α : Type} [Number α]

structure Total (α : Type) where
  additive : α
  more : α
deriving DecidableEq

namespace Total

def none : Total α := ⟨0, 1⟩

def multiplier (t : Total α) : α :=
  (1 + t.additive) * t.more

def increase (t : Total α) : α :=
  t.multiplier - 1

def share (t : Total α) : α :=
  t.additive * t.more

end Total

structure Pool (α : Type) where
  modifiers : List (Modifier α)
  configuration : Configuration

/-- Negative zero changes no number that it is added to. -/
def sumOf (xs : List α) : α :=
  xs.foldl (· + ·) (-0)

namespace Pool

def effectiveValue (p : Pool α) (m : Modifier α) : α :=
  match m.per with
  | some per => m.stackedValue (p.configuration.stackCount per)
  | .none => m.value

def matching (p : Pool α) (s : Stat) (scopes : List Scope) : List (Modifier α) :=
  p.modifiers.filter fun m => m.stat = s && (m.scope = .global || scopes.contains m.scope)

def add (p : Pool α) (t : Total α) (m : Modifier α) : Total α :=
  let v := p.effectiveValue m
  if m.additional then { t with additive := t.additive + v } else { t with more := t.more * (1 + v) }

def resolve (p : Pool α) (s : Stat) (scopes : List Scope) : Total α :=
  (p.matching s scopes).foldl p.add .none

def resolveGlobal (p : Pool α) (s : Stat) : Total α :=
  p.resolve s [.global]

def sum (p : Pool α) (s : Stat) (scopes : List Scope) : α :=
  sumOf ((p.matching s scopes).map p.effectiveValue)

end Pool
end CharacterBuild
