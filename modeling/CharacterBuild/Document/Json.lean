import CharacterBuild.Document.Value
import CharacterBuild.Text.Digit

/-! Reading of JSON. A string that holds half of a surrogate pair, and a number beyond the range of binary64, are
well formed and unreadable. -/

namespace CharacterBuild.Json

open Text

def isSpace (c : Char) : Bool :=
  c = ' ' || c = '\t' || c = '\n' || c = '\r'

def skip (cs : List Char) : List Char :=
  cs.dropWhile isSpace

inductive Piece where
  | char (c : Char)
  | unit (n : Nat)

def escaped? : Char → Option Char
  | '"' => some '"'
  | '\\' => some '\\'
  | '/' => some '/'
  | 'b' => some '\x08'
  | 'f' => some '\x0c'
  | 'n' => some '\n'
  | 'r' => some '\r'
  | 't' => some '\t'
  | _ => none

def pieces : List Char → Option (List Piece × List Char)
  | [] => none
  | '"' :: r => some ([], r)
  | '\\' :: 'u' :: a :: b :: c :: d :: r => do
    let n ← inBase? 16 [a, b, c, d]
    let (ps, rest) ← pieces r
    some (.unit n :: ps, rest)
  | '\\' :: c :: r => do
    let c ← escaped? c
    let (ps, rest) ← pieces r
    some (.char c :: ps, rest)
  | c :: r => do
    guard (0x20 ≤ c.toNat)
    let (ps, rest) ← pieces r
    some (.char c :: ps, rest)

def isHigh (n : Nat) : Bool :=
  0xD800 ≤ n && n < 0xDC00

def isLow (n : Nat) : Bool :=
  0xDC00 ≤ n && n < 0xE000

def join : List Piece → Option (List Char)
  | [] => some []
  | .char c :: ps => (c :: ·) <$> join ps
  | .unit n :: ps =>
    if isHigh n then
      match ps with
      | .unit m :: ps =>
        if isLow m then (.ofNat (0x10000 + (n - 0xD800) * 0x400 + (m - 0xDC00)) :: ·) <$> join ps
        else none
      | _ => none
    else if isLow n then none
    else (.ofNat n :: ·) <$> join ps

def fraction? : List Char → Option (List Char × List Char)
  | '.' :: r => match digits r with
    | ([], _) => none
    | ds => some ds
  | cs => some ([], cs)

def exponent? : List Char → Option (Option Int × List Char)
  | c :: r =>
    if c = 'e' ∨ c = 'E' then
      let (negative, r) := match r with
        | '-' :: r => (true, r)
        | '+' :: r => (false, r)
        | r => (false, r)
      match digits r with
      | ([], _) => none
      | (ds, r) =>
        let n : Int := Decimal.ofDigits ds
        some (some (if negative then -n else n), r)
    else some (none, c :: r)
  | [] => some (none, [])

def numeral (negative : Bool) (whole frac : List Char) (exponent : Option Int) : Value :=
  let d : Decimal := ⟨Decimal.ofDigits (whole ++ frac), exponent.getD 0 - frac.length⟩
  if !d.fitsBinary64 then .unreadable
  else if frac.isEmpty && exponent.isNone && !(negative && d.digits == 0) then
    .integer (if negative then -d.digits else d.digits)
  else .real (.finite negative d)

def number (cs : List Char) : Option (Value × List Char) := do
  let (negative, r) := match cs with
    | '-' :: r => (true, r)
    | r => (false, r)
  let (whole, r) := digits r
  guard (whole ≠ [] ∧ (whole.head? = some '0' → whole.length = 1))
  let (frac, r) ← fraction? r
  let (exponent, r) ← exponent? r
  some (numeral negative whole frac exponent, r)

mutual

def value : Nat → List Char → Option (Value × List Char)
  | 0, _ => none
  | fuel + 1, cs => match skip cs with
    | 'n' :: 'u' :: 'l' :: 'l' :: r => some (.null, r)
    | 't' :: 'r' :: 'u' :: 'e' :: r => some (.bool true, r)
    | 'f' :: 'a' :: 'l' :: 's' :: 'e' :: r => some (.bool false, r)
    | '"' :: r => do
      let (ps, r) ← pieces r
      some ((join ps).elim .unreadable fun cs => .text (.ofList cs), r)
    | '[' :: r => match skip r with
      | ']' :: r => some (.list [], r)
      | r => do
        let (vs, r) ← items fuel r
        some (.list vs, r)
    | '{' :: r => match skip r with
      | '}' :: r => some (.table [], r)
      | r => do
        let (fs, r) ← fields fuel r
        some (fs.elim .unreadable .table, r)
    | r => number r

def items : Nat → List Char → Option (List Value × List Char)
  | 0, _ => none
  | fuel + 1, cs => do
    let (v, r) ← value fuel cs
    match skip r with
    | ',' :: r =>
      let (vs, r) ← items fuel r
      some (v :: vs, r)
    | ']' :: r => some ([v], r)
    | _ => none

/-- No fields are left of a table with an unreadable name. -/
def fields : Nat → List Char → Option (Option (List (String × Value)) × List Char)
  | 0, _ => none
  | fuel + 1, cs => match skip cs with
    | '"' :: r => do
      let (ps, r) ← pieces r
      let name := join ps
      match skip r with
      | ':' :: r =>
        let (v, r) ← value fuel r
        let first := name.map fun cs => (String.ofList cs, v)
        match skip r with
        | ',' :: r =>
          let (fs, r) ← fields fuel r
          some (first.bind fun f => (f :: ·) <$> fs, r)
        | '}' :: r => some (([·]) <$> first, r)
        | _ => none
      | _ => none
    | _ => none

end

/-- Every step of the reader takes a character, so a text is long enough to be its own bound. -/
def read? (s : String) : Option Value := do
  let cs := s.toList
  let (v, r) ← value (2 * cs.length + 2) cs
  guard (skip r = [])
  some v

end CharacterBuild.Json
