import CharacterBuild.Number.Basic

/-! Binary64. A finite magnitude is a whole number of units `2 ^ exponent`; its shortest decimal is the one with the
fewest digits among those nearer to it than to its neighbours. -/

namespace CharacterBuild.Binary64

/-- The magnitude `units * 2 ^ exponent`; below the least one of its binade the spacing is half. -/
structure Magnitude where
  units : Nat
  exponent : Int
  leastOfBinade : Bool

def negative (x : Float) : Bool :=
  x.toBits >>> 63 != 0

def decode (x : Float) : Extended Magnitude :=
  let field := (x.toBits >>> 52).toNat % 2048
  let tail := x.toBits.toNat % Nat.pow 2 52
  if field = 2047 then if tail = 0 then .infinite (negative x) else .notANumber
  else if field = 0 then .finite (negative x) ⟨tail, -1074, false⟩
  else .finite (negative x) ⟨tail + Nat.pow 2 52, field - 1075, tail = 0 && field != 1⟩

def Magnitude.toRat (m : Magnitude) : Rat :=
  match m.exponent with
  | .ofNat e => (m.units * Nat.pow 2 e : Nat)
  | .negSucc e => mkRat m.units (Nat.pow 2 (e + 1))

def quarters (m : Magnitude) (count : Nat) (k : Int) : Nat × Nat :=
  let (n, d) := match m.exponent - 2 with
    | .ofNat e => (count * Nat.pow 2 e, 1)
    | .negSucc e => (count, Nat.pow 2 (e + 1))
  match k with
  | .ofNat e => (n, d * Nat.pow 10 e)
  | .negSucc e => (n * Nat.pow 10 (e + 1), d)

/-- Whether `count * 10 ^ k` reads back as the magnitude. Both ends belong to it when its units are even. -/
def reads (m : Magnitude) (count : Nat) (k : Int) : Bool :=
  let (lo, d) := quarters m (4 * m.units - if m.leastOfBinade then 1 else 2) k
  let (hi, _) := quarters m (4 * m.units + 2) k
  if m.units % 2 = 0 then lo ≤ count * d && count * d ≤ hi else lo < count * d && count * d < hi

def onGrid (tie : Tie) (m : Magnitude) (k : Int) : Option Nat :=
  let (n, d) := quarters m (4 * m.units) k
  let below := n / d
  match reads m below k && below != 0, reads m (below + 1) k with
  | false, false => none
  | true, false => some below
  | false, true => some (below + 1)
  | true, true =>
    let rest := 2 * (n % d)
    let up := d < rest || (rest == d && (tie = .up || below % 2 == 1))
    some (if up then below + 1 else below)

def search (tie : Tie) (m : Magnitude) : Nat → Int → Decimal
  | 0, k => ⟨0, k⟩
  | grids + 1, k =>
    match onGrid tie m k with
    | some digits => ⟨digits, k⟩
    | none => search tie m grids (k - 1)

def coarsest (m : Magnitude) : Int :=
  ((m.units.log2 : Int) + m.exponent) * 30103 / 100000 + 2

def shortest (tie : Tie) (m : Magnitude) : Decimal :=
  if m.units = 0 then ⟨0, 0⟩ else search tie m 22 (coarsest m)

def map {α β : Type} (f : α → β) : Extended α → Extended β
  | .notANumber => .notANumber
  | .infinite s => .infinite s
  | .finite s a => .finite s (f a)

/-- Beyond these magnitudes every decimal is infinite or zero, so no power of ten grows without need. -/
def ofDecimal (d : Decimal) : Float :=
  if d.digits = 0 ∨ d.magnitude < -400 then 0
  else if 400 < d.magnitude then 1 / 0
  else .ofScientific d.digits (d.exponent < 0) d.exponent.natAbs

def ofExtended : Extended Decimal → Float
  | .notANumber => 0 / 0
  | .infinite s => if s then -1 / 0 else 1 / 0
  | .finite s d => if s then -ofDecimal d else ofDecimal d

instance : Number Float where
  natCast := .ofNat
  decLt := inferInstance
  decLe := inferInstance
  abs := .abs
  floor := .floor
  round := .round
  ofExtended? x := some (ofExtended x)
  ofDecimal := ofDecimal
  shortest tie x := map (shortest tie) (decode x)
  exact x := map Magnitude.toRat (decode x)

end CharacterBuild.Binary64
