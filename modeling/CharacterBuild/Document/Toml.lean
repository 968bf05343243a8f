import CharacterBuild.Document.Toml.Scalar
import CharacterBuild.Document.Toml.Table
import CharacterBuild.Document.Toml.Text

/-! Reading of TOML 1.0. -/

namespace CharacterBuild.Toml

def depthLimit : Nat := 80

def boundedPath (cs : List Char) : Option (List String × List Char) := do
  let (ks, r) ← path cs.length cs
  guard (ks.length < depthLimit)
  some (ks, r)

mutual

def value (depth : Nat) : Nat → List Char → Option (Value × List Char)
  | 0, _ => none
  | fuel + 1, cs =>
    match string? cs with
    | some s => do
      let (cs, r) ← s
      some (.text (.ofList cs), r)
    | none => match cs with
      | '[' :: r => do
        guard (depth + 1 < depthLimit)
        let (vs, r) ← items (depth + 1) fuel r
        some (.list vs, r)
      | '{' :: r => do
        guard (depth + 1 < depthLimit)
        match skipBlank r with
        | '}' :: r => some (.table [], r)
        | r =>
          let (es, r) ← fields (depth + 1) fuel [] r
          some (.table (entryValues es), r)
      | cs => scalar cs

def items (depth : Nat) : Nat → List Char → Option (List Value × List Char)
  | 0, _ => none
  | fuel + 1, cs => do
    match ← filler false cs with
    | ']' :: r => some ([], r)
    | r =>
      let (v, r) ← value depth fuel r
      match ← filler false r with
      | ']' :: r => some ([v], r)
      | ',' :: r =>
        let (vs, r) ← items depth fuel r
        some (v :: vs, r)
      | _ => none

def fields (depth : Nat) : Nat → Members → List Char → Option (Members × List Char)
  | 0, _, _ => none
  | fuel + 1, es, cs => do
    let (ks, r) ← boundedPath cs
    match r with
    | '=' :: r =>
      let (v, r) ← value depth fuel (skipBlank r)
      let es ← insert v ks true es
      match skipBlank r with
      | '}' :: r => some (es, r)
      | ',' :: r => fields depth fuel es (skipBlank r)
      | _ => none
    | _ => none

end

structure State where
  root : Members
  current : List String

def header (close : List Char) (cs : List Char) : Option (List String × List Char) := do
  let (ks, r) ← boundedPath (skipBlank cs)
  let r ← close.isPrefixOf? r
  some (ks, r)

def opened (openLast : String → Members → Option Members) (ks : List String) (s : State) : Option State := do
  let k ← ks.getLast?
  some ⟨← within (openLast k) ks.dropLast s.root, ks⟩

def statement (s : State) : List Char → Option (State × List Char)
  | '[' :: '[' :: r => do
    let (ks, r) ← header [']', ']'] r
    some (← opened openItem ks s, r)
  | '[' :: r => do
    let (ks, r) ← header [']'] r
    some (← opened openTable ks s, r)
  | cs => do
    let (ks, r) ← boundedPath cs
    match r with
    | '=' :: r =>
      let (v, r) ← value 0 (2 * r.length + 2) (skipBlank r)
      some (⟨← within (insert v ks true) s.current s.root, s.current⟩, r)
    | _ => none

def statements : Nat → State → List Char → Option State
  | 0, _, _ => none
  | fuel + 1, s, cs => do
    match ← filler false cs with
    | [] => some s
    | cs =>
      let (s, r) ← statement s cs
      statements fuel s (← lineEnd false r)

def read? (text : String) : Option Value := do
  let cs := match text.toList with
    | '\ufeff' :: r => r
    | r => r
  let s ← statements (cs.length + 1) ⟨[], []⟩ cs
  some (.table (entryValues s.root))

end CharacterBuild.Toml
