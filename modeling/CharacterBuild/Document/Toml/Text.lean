import CharacterBuild.Text.Digit

namespace CharacterBuild.Toml

open Text

def isBlank (c : Char) : Bool :=
  c = ' ' || c = '\t'

def skipBlank (cs : List Char) : List Char :=
  cs.dropWhile isBlank

def isPrintable (c : Char) : Bool :=
  c = '\t' || (0x20 ≤ c.toNat && c.toNat ≠ 0x7F)

def escaped? : Char → Option Char
  | 'b' => some '\x08'
  | 't' => some '\t'
  | 'n' => some '\n'
  | 'f' => some '\x0c'
  | 'r' => some '\r'
  | '"' => some '"'
  | '\\' => some '\\'
  | _ => none

def codePoint? (cs : List Char) : Option Char := do
  let n ← inBase? 16 cs
  guard n.isValidChar
  some (.ofNat n)

def basic : List Char → Option (List Char × List Char)
  | [] => none
  | '"' :: r => some ([], r)
  | '\\' :: 'u' :: a :: b :: c :: d :: r => do
    let ch ← codePoint? [a, b, c, d]
    let (cs, rest) ← basic r
    some (ch :: cs, rest)
  | '\\' :: 'U' :: a :: b :: c :: d :: e :: f :: g :: h :: r => do
    let ch ← codePoint? [a, b, c, d, e, f, g, h]
    let (cs, rest) ← basic r
    some (ch :: cs, rest)
  | '\\' :: c :: r => do
    let ch ← escaped? c
    let (cs, rest) ← basic r
    some (ch :: cs, rest)
  | c :: r => do
    guard (isPrintable c)
    let (cs, rest) ← basic r
    some (c :: cs, rest)

inductive Skipping where
  | nothing
  | toLineEnd
  | blanks

def multiBasic : Skipping → List Char → Option (List Char × List Char)
  | _, [] => none
  | .toLineEnd, '\n' :: r => multiBasic .blanks r
  | .toLineEnd, '\r' :: '\n' :: r => multiBasic .blanks r
  | .toLineEnd, c :: r => if isBlank c then multiBasic .toLineEnd r else none
  | .blanks, '\n' :: r => multiBasic .blanks r
  | .blanks, '\r' :: '\n' :: r => multiBasic .blanks r
  | .blanks, ' ' :: r => multiBasic .blanks r
  | .blanks, '\t' :: r => multiBasic .blanks r
  | _, '"' :: '"' :: '"' :: '"' :: '"' :: r => some (['"', '"'], r)
  | _, '"' :: '"' :: '"' :: '"' :: r => some (['"'], r)
  | _, '"' :: '"' :: '"' :: r => some ([], r)
  | _, '\\' :: 'u' :: a :: b :: c :: d :: r => do
    let ch ← codePoint? [a, b, c, d]
    let (cs, rest) ← multiBasic .nothing r
    some (ch :: cs, rest)
  | _, '\\' :: 'U' :: a :: b :: c :: d :: e :: f :: g :: h :: r => do
    let ch ← codePoint? [a, b, c, d, e, f, g, h]
    let (cs, rest) ← multiBasic .nothing r
    some (ch :: cs, rest)
  | _, '\\' :: '\n' :: r => multiBasic .blanks r
  | _, '\\' :: '\r' :: '\n' :: r => multiBasic .blanks r
  | _, '\\' :: c :: r =>
    if isBlank c then multiBasic .toLineEnd r
    else do
      let ch ← escaped? c
      let (cs, rest) ← multiBasic .nothing r
      some (ch :: cs, rest)
  | _, '\r' :: '\n' :: r => do
    let (cs, rest) ← multiBasic .nothing r
    some ('\n' :: cs, rest)
  | _, c :: r => do
    guard (c = '\n' ∨ isPrintable c)
    let (cs, rest) ← multiBasic .nothing r
    some (c :: cs, rest)

def literal : List Char → Option (List Char × List Char)
  | [] => none
  | '\'' :: r => some ([], r)
  | c :: r => do
    guard (isPrintable c)
    let (cs, rest) ← literal r
    some (c :: cs, rest)

def multiLiteral : List Char → Option (List Char × List Char)
  | [] => none
  | '\'' :: '\'' :: '\'' :: '\'' :: '\'' :: r => some (['\'', '\''], r)
  | '\'' :: '\'' :: '\'' :: '\'' :: r => some (['\''], r)
  | '\'' :: '\'' :: '\'' :: r => some ([], r)
  | '\r' :: '\n' :: r => do
    let (cs, rest) ← multiLiteral r
    some ('\n' :: cs, rest)
  | c :: r => do
    guard (c = '\n' ∨ isPrintable c)
    let (cs, rest) ← multiLiteral r
    some (c :: cs, rest)

def dropLineEnd : List Char → List Char
  | '\n' :: r => r
  | '\r' :: '\n' :: r => r
  | r => r

def string? : List Char → Option (Option (List Char × List Char))
  | '"' :: '"' :: '"' :: r => some (multiBasic .nothing (dropLineEnd r))
  | '\'' :: '\'' :: '\'' :: r => some (multiLiteral (dropLineEnd r))
  | '"' :: r => some (basic r)
  | '\'' :: r => some (literal r)
  | _ => none

def isBare (c : Char) : Bool :=
  c.isAlphanum || c = '_' || c = '-'

def key : List Char → Option (String × List Char)
  | '"' :: r => do
    let (cs, rest) ← basic r
    some (.ofList cs, rest)
  | '\'' :: r => do
    let (cs, rest) ← literal r
    some (.ofList cs, rest)
  | cs => do
    let name := cs.takeWhile isBare
    guard (name ≠ [])
    some (.ofList name, cs.dropWhile isBare)

def path : Nat → List Char → Option (List String × List Char)
  | 0, _ => none
  | fuel + 1, cs => do
    let (k, r) ← key cs
    match skipBlank r with
    | '.' :: r =>
      let (ks, r) ← path fuel (skipBlank r)
      some (k :: ks, r)
    | r => some ([k], r)

def filler : Bool → List Char → Option (List Char)
  | _, [] => some []
  | _, '\n' :: r => filler false r
  | _, '\r' :: '\n' :: r => filler false r
  | true, c :: r => if isPrintable c then filler true r else none
  | false, '#' :: r => filler true r
  | false, c :: r => if isBlank c then filler false r else some (c :: r)

def lineEnd (comment : Bool) : List Char → Option (List Char)
  | [] => some []
  | '\n' :: r => some r
  | '\r' :: '\n' :: r => some r
  | c :: r =>
    if comment then if isPrintable c then lineEnd true r else none
    else if c = '#' then lineEnd true r
    else if isBlank c then lineEnd false r
    else none

end CharacterBuild.Toml
