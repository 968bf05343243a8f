import CharacterBuild.Document.Notation
import CharacterBuild.Number.Basic

/-! Reading of records out of documents. Unknown fields are ignored, a known one may stand only once, and a record may
also be written as the list of its fields. -/

namespace CharacterBuild

structure Field where
  name : String
  hasDefault : Bool

namespace Field

def plain (name : String) : Field := ⟨name, false⟩
def defaulted (name : String) : Field := ⟨name, true⟩

end Field

abbrev Record := List (String × Value)

namespace Record

def distinct : List String → Bool
  | [] => true
  | s :: ss => !ss.contains s && distinct ss

def ofTable? (fields : List Field) (entries : List (String × Value)) : Option Record :=
  let known := entries.filter fun e => fields.any (·.name == e.1)
  if distinct (known.map (·.1)) then some known else none

def ofList? (fields : List Field) (items : List Value) : Option Record :=
  if items.length ≤ fields.length && (fields.drop items.length).all (·.hasDefault) then
    some ((fields.map (·.name)).zip items)
  else none

def ofValue? (n : Notation) (fields : List Field) : Value → Option Record
  | .table entries => ofTable? fields entries
  | .list items => ofList? fields (if n.ignoresRest then items.take fields.length else items)
  | _ => none

variable {α : Type}

def required? (r : Record) (name : String) (read? : Value → Option α) : Option α :=
  r.lookup name >>= read?

def withDefault? (r : Record) (name : String) (read? : Value → Option α) (d : α) : Option α :=
  match r.lookup name with
  | none => some d
  | some v => read? v

def optional? (r : Record) (name : String) (read? : Value → Option α) : Option (Option α) :=
  match r.lookup name with
  | none => some none
  | some .null => some none
  | some v => some <$> read? v

end Record

namespace Value

variable {α : Type}

def text? : Value → Option String
  | .text s => some s
  | _ => none

def bool? : Value → Option Bool
  | .bool b => some b
  | _ => none

def count? : Value → Option UInt32
  | .integer n => if 0 ≤ n ∧ n < UInt32.size then some (.ofNat n.toNat) else none
  | _ => none

def number? [Number α] : Value → Option α
  | .integer n => Number.ofExtended? (.finite (n < 0) ⟨n.natAbs, 0⟩)
  | .real x => Number.ofExtended? x
  | _ => none

def list? (read? : Value → Option α) : Value → Option (List α)
  | .list items => items.mapM read?
  | _ => none

end Value
end CharacterBuild
