import CharacterBuild.Number.Basic

namespace CharacterBuild.Rational

def roundAway (x : Rat) : Rat :=
  if x < 0 then -((-x + 1 / 2).floor : Rat) else ((x + 1 / 2).floor : Rat)

def places (x : Rat) : Nat → Nat → Nat
  | 0, k => k
  | bound + 1, k => if Nat.pow 10 k % x.den = 0 then k else places x bound (k + 1)

def stripZeros : Nat → Decimal → Decimal
  | 0, d => d
  | bound + 1, d =>
    if d.digits ≠ 0 ∧ d.digits % 10 = 0 then stripZeros bound ⟨d.digits / 10, d.exponent + 1⟩ else d

def decimal (x : Rat) : Decimal :=
  let k := places x x.den.log2 0
  stripZeros x.num.natAbs.log2 ⟨x.num.natAbs * Nat.pow 10 k / x.den, -k⟩

def ofExtended? : Extended Decimal → Option Rat
  | .finite negative d => some (if negative then -d.toRat else d.toRat)
  | _ => none

instance : Number Rat where
  decLt := inferInstance
  decLe := inferInstance
  abs x := if x < 0 then -x else x
  floor x := x.floor
  round := roundAway
  ofExtended? := ofExtended?
  ofDecimal := Decimal.toRat
  shortest _ x := .finite (x < 0) (decimal x)
  exact x := .finite (x < 0) (if x < 0 then -x else x)

end CharacterBuild.Rational
