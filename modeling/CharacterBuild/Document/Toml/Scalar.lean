import CharacterBuild.Document.Value
import CharacterBuild.Text.Digit
import CharacterBuild.Text.Space

namespace CharacterBuild.Toml

open Text

def digitRun? (base : Nat) (cs : List Char) : Option (List Char) := do
  let pieces := splitOn (· == '_') cs
  guard (pieces.all fun p => !p.isEmpty && (inBase? base p).isSome)
  some pieces.flatten

def whole? (cs : List Char) : Option (List Char) := do
  let ds ← digitRun? 10 cs
  guard (ds.head? = some '0' → ds.length = 1)
  some ds

def splitSign : List Char → Bool × List Char
  | '-' :: r => (true, r)
  | '+' :: r => (false, r)
  | r => (false, r)

def bounded? (n : Int) : Option Value :=
  if -9223372036854775808 ≤ n ∧ n ≤ 9223372036854775807 then some (.integer n) else none

def integer? : List Char → Option Value
  | '0' :: 'x' :: r => digitRun? 16 r >>= inBase? 16 >>= (bounded? ·)
  | '0' :: 'o' :: r => digitRun? 8 r >>= inBase? 8 >>= (bounded? ·)
  | '0' :: 'b' :: r => digitRun? 2 r >>= inBase? 2 >>= (bounded? ·)
  | cs => do
    let (negative, r) := splitSign cs
    let n : Int := Decimal.ofDigits (← whole? r)
    bounded? (if negative then -n else n)

def isExponentMark (c : Char) : Bool :=
  c = 'e' || c = 'E'

def decimal? (cs : List Char) : Option Value := do
  let (negative, r) := splitSign cs
  let mantissa := r.takeWhile (!isExponentMark ·)
  let exponent ← match r.dropWhile (!isExponentMark ·) with
    | [] => some none
    | _ :: r => do
      let (negative, r) := splitSign r
      let n : Int := Decimal.ofDigits (← digitRun? 10 r)
      some (some (if negative then -n else n))
  let whole ← whole? (mantissa.takeWhile (· != '.'))
  let frac ← match mantissa.dropWhile (· != '.') with
    | [] => some []
    | _ :: r => digitRun? 10 r
  guard (frac ≠ [] ∨ exponent.isSome)
  let d : Decimal := ⟨Decimal.ofDigits (whole ++ frac), exponent.getD 0 - frac.length⟩
  guard (negative ∨ d.fitsBinary64)
  some (.real (.finite negative d))

def special? (cs : List Char) : Option Value :=
  match splitSign cs with
  | (negative, ['i', 'n', 'f']) => some (.real (.infinite negative))
  | (_, ['n', 'a', 'n']) => some (.real .notANumber)
  | _ => none

def twoDigits? (lo hi : Nat) (a b : Char) : Option Nat := do
  let n ← inBase? 10 [a, b]
  guard (lo ≤ n ∧ n ≤ hi)
  some n

def daysIn (year month : Nat) : Nat :=
  if month = 2 then
    if year % 4 = 0 ∧ (year % 100 ≠ 0 ∨ year % 400 = 0) then 29 else 28
  else if month = 4 ∨ month = 6 ∨ month = 9 ∨ month = 11 then 30
  else 31

def isOffset : List Char → Bool
  | ['Z'] => true
  | ['z'] => true
  | [s, a, b, ':', c, d] =>
    (s = '+' || s = '-') && (twoDigits? 0 23 a b).isSome && (twoDigits? 0 59 c d).isSome
  | _ => false

def time? : List Char → Option (List Char)
  | a :: b :: ':' :: c :: d :: ':' :: e :: f :: r => do
    let _ ← twoDigits? 0 23 a b
    let _ ← twoDigits? 0 59 c d
    let _ ← twoDigits? 0 60 e f
    match r with
    | '.' :: r => match digits r with
      | ([], _) => none
      | (_, r) => some r
    | r => some r
  | _ => none

def date? : List Char → Option (List Char)
  | a :: b :: c :: d :: '-' :: e :: f :: '-' :: g :: h :: r => do
    let year ← inBase? 10 [a, b, c, d]
    let month ← twoDigits? 1 12 e f
    let _ ← twoDigits? 1 (daysIn year month) g h
    some r
  | _ => none

def isMoment (cs : List Char) : Bool :=
  match date? cs with
  | some [] => true
  | some (t :: r) =>
    (t = 'T' || t = 't' || t = ' ') &&
      match time? r with
      | some r => r.isEmpty || isOffset r
      | none => false
  | none => time? cs == some []

def scalar? (cs : List Char) : Option Value :=
  if cs = "true".toList then some (.bool true)
  else if cs = "false".toList then some (.bool false)
  else if isMoment cs then some (.table [("date-time", .text (.ofList cs))])
  else integer? cs <|> decimal? cs <|> special? cs

def isScalarChar (c : Char) : Bool :=
  c.isAlphanum || c = '_' || c = '+' || c = '-' || c = '.' || c = ':'

def scalar (cs : List Char) : Option (Value × List Char) := do
  let token := cs.takeWhile isScalarChar
  let r := cs.dropWhile isScalarChar
  match date? token, r with
  | some [], ' ' :: d :: r' =>
    if d.isDigit then
      let more := (d :: r').takeWhile isScalarChar
      some (← scalar? (token ++ ' ' :: more), (d :: r').dropWhile isScalarChar)
    else some (← scalar? token, r)
  | _, _ => some (← scalar? token, r)

end CharacterBuild.Toml
