import CharacterBuild.Number.Text
import CharacterBuild.Text.Digit

namespace CharacterBuild.Affix

def decimal? (cs : List Char) : Option Decimal :=
  match Text.digits cs with
  | ([], _) => none
  | (whole, []) => some ⟨Decimal.ofDigits whole, 0⟩
  | (whole, '.' :: frac) =>
    if frac ≠ [] ∧ frac.all Char.isDigit then
      some ⟨Decimal.ofDigits (whole ++ frac), -frac.length⟩
    else none
  | _ => none

variable {α : Type} [Number α]

def amountChars? (cs : List Char) : Option α :=
  Number.ofDecimal <$> decimal? cs

def signedChars? : List Char → Option α
  | '-' :: cs => (- ·) <$> amountChars? cs
  | '+' :: cs => amountChars? cs
  | cs => amountChars? cs

def amount? (s : String) : Option α :=
  amountChars? s.toList

def signed? (s : String) : Option α :=
  signedChars? s.toList

def percent? (s : String) : Option α :=
  match s.toList.reverse with
  | '%' :: cs => (· / 100) <$> signedChars? cs.reverse
  | _ => none

def amount (x : α) : String :=
  Number.plain (Number.toMillionths x)

def signed (x : α) : String :=
  (if x < 0 then "-" else "+") ++ amount (Number.abs x)

def percent (x : α) : String :=
  signed (x * 100) ++ "%"

end CharacterBuild.Affix
