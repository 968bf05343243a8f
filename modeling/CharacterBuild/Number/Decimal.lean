namespace CharacterBuild

structure Decimal where
  digits : Nat
  exponent : Int
deriving DecidableEq

inductive Extended (α : Type) where
  | notANumber
  | infinite (negative : Bool)
  | finite (negative : Bool) (magnitude : α)
deriving DecidableEq

namespace Decimal

def digitValue (c : Char) : Nat :=
  c.toNat - '0'.toNat

def ofDigits (cs : List Char) : Nat :=
  cs.foldl (fun n c => 10 * n + digitValue c) 0

def digitText (n : Nat) : List Char :=
  Nat.toDigits 10 n

def toRat (d : Decimal) : Rat :=
  match d.exponent with
  | .ofNat e => (d.digits * Nat.pow 10 e : Nat)
  | .negSucc e => mkRat d.digits (Nat.pow 10 (e + 1))

def magnitude (d : Decimal) : Int :=
  (digitText d.digits).length - 1 + d.exponent

/-- Whether the decimal is nearer to a finite binary64 than to the first power of two beyond. -/
def fitsBinary64 (d : Decimal) : Bool :=
  d.digits == 0 || d.magnitude < 308 ||
    (d.magnitude == 308 && d.toRat < ((Nat.pow 2 1024 - Nat.pow 2 970 : Nat) : Rat))

end Decimal
end CharacterBuild
