import CharacterBuild.Number.Decimal

/-! The arithmetic of a build. Damage, resistances and affix texts are written once, for any type of numbers with
these operations; they run on binary64 and are reasoned about on the rationals. -/

namespace CharacterBuild

/-- Where two shortest decimals are equally near, the digits go up or to the even neighbour. -/
inductive Tie where
  | up
  | even
deriving DecidableEq

class Number (α : Type) extends Add α, Sub α, Mul α, Div α, Neg α, LT α, LE α, NatCast α where
  decLt : DecidableLT α
  decLe : DecidableLE α
  abs : α → α
  floor : α → α
  /-- The nearest whole number, a half going away from zero. -/
  round : α → α
  ofExtended? : Extended Decimal → Option α
  ofDecimal : Decimal → α
  /-- The shortest decimal that reads back as the number. -/
  shortest : Tie → α → Extended Decimal
  exact : α → Extended Rat

namespace Number

variable {α : Type} [Number α]

instance : DecidableLT α := decLt
instance : DecidableLE α := decLe

instance (priority := low) (n : Nat) : OfNat α n := ⟨(n : α)⟩

/-- The smaller operand, the second of two equal ones, the other beside one that is no number. -/
def min (a b : α) : α :=
  if a < b then a else if b ≤ b then b else a

def max (a b : α) : α :=
  if b < a then a else if b ≤ b then b else a

def clamp? (x lo hi : α) : Option α :=
  if lo ≤ hi then some (if x < lo then lo else if hi < x then hi else x) else none

def clampUnit (x : α) : α :=
  if x < 0 then 0 else if (1 : α) < x then 1 else x

def toMillionths (x : α) : α :=
  round (x * 1000000) / 1000000

end Number
end CharacterBuild
