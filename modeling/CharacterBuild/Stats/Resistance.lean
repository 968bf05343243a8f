import CharacterBuild.Stats.Aggregate

namespace CharacterBuild

structure Resistance (α : Type) where
  max : α
  potential : α
  actual : α
deriving DecidableEq

variable {α : Type} [Number α]

namespace Resistance

def clamped (potential max : α) : α :=
  Number.max (Number.min potential max) 0

def of (max potential : α) : Resistance α :=
  ⟨max, potential, clamped potential max⟩

def isCapped (r : Resistance α) : Bool :=
  r.max ≤ r.potential

def overcap (r : Resistance α) : α :=
  Number.max (r.potential - r.max) 0

def toPercent (fraction : α) : α :=
  Number.toMillionths (fraction * 100)

def ofPool (p : Pool α) (baseMax : α) (t : ResistanceType) : Resistance α :=
  let potential := toPercent (p.resolve .resistance t.scopes).share
  let max := baseMax + toPercent (p.resolve .maxResistance t.scopes).share
  of max potential

end Resistance

structure Defenses (α : Type) where
  cold : Resistance α
  lightning : Resistance α
  fire : Resistance α
  erosion : Resistance α
deriving DecidableEq

namespace Defenses

def ofPool (p : Pool α) (baseMax : α) : Defenses α where
  cold := .ofPool p baseMax .cold
  lightning := .ofPool p baseMax .lightning
  fire := .ofPool p baseMax .fire
  erosion := .ofPool p baseMax .erosion

def get (d : Defenses α) : ResistanceType → Resistance α
  | .cold => d.cold
  | .lightning => d.lightning
  | .fire => d.fire
  | .erosion => d.erosion

end Defenses
end CharacterBuild
