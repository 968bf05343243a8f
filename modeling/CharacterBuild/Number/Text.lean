import CharacterBuild.Number.Basic

namespace CharacterBuild

namespace Decimal

def zeros (n : Nat) : List Char :=
  List.replicate n '0'

def plain (d : Decimal) : List Char :=
  let cs := digitText d.digits
  match d.exponent with
  | .ofNat e => if d.digits = 0 then ['0'] else cs ++ zeros e
  | .negSucc e =>
    let cs := zeros (e + 2 - cs.length) ++ cs
    cs.take (cs.length - (e + 1)) ++ '.' :: cs.drop (cs.length - (e + 1))

def pointed (d : Decimal) : List Char :=
  if 0 ≤ d.exponent then d.plain ++ ['.', '0'] else d.plain

def scientific (plus : List Char) (d : Decimal) : List Char :=
  let mantissa := match digitText d.digits with
    | [] => []
    | [c] => [c]
    | c :: cs => c :: '.' :: cs
  let e := d.magnitude
  mantissa ++ 'e' :: (if e < 0 then ['-'] else plus) ++ digitText e.natAbs

end Decimal

namespace Extended

def signed (negative : Bool) (cs : List Char) : List Char :=
  if negative then '-' :: cs else cs

def write (finite : Decimal → List Char) : Extended Decimal → List Char
  | .notANumber => ['N', 'a', 'N']
  | .infinite s => signed s ['i', 'n', 'f']
  | .finite s d => signed s (finite d)

def inDocument? : Extended Decimal → Option (List Char)
  | .finite s d => some <| signed s <|
    if d.digits ≠ 0 ∧ (d.magnitude < -5 ∨ 16 ≤ d.magnitude) then d.scientific ['+'] else d.pointed
  | _ => none

end Extended

namespace Number

variable {α : Type} [Number α]

def plainChars (x : α) : List Char :=
  (shortest .up x).write Decimal.plain

def plain (x : α) : String :=
  .ofList (plainChars x)

def described (x : α) : String :=
  .ofList <| (shortest .up x).write fun d =>
    if d.digits ≠ 0 ∧ (d.magnitude < -4 ∨ 16 ≤ d.magnitude) then d.scientific [] else d.pointed

def roundEven (num den : Nat) : Nat :=
  let q := num / den
  let rest := 2 * (num % den)
  if den < rest || (rest == den && q % 2 == 1) then q + 1 else q

def fixed (places : Nat) (x : α) : String :=
  match exact x with
  | .notANumber => "NaN"
  | .infinite s => .ofList (Extended.signed s ['i', 'n', 'f'])
  | .finite s r =>
    let n := roundEven (r.num.natAbs * Nat.pow 10 places) r.den
    .ofList (Extended.signed s (Decimal.plain ⟨n, -places⟩))

end Number
end CharacterBuild
