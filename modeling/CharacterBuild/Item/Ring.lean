import CharacterBuild.Affix.Basic

namespace CharacterBuild

structure Ring where
  name : String
  destiny : Option String
  affix : String
deriving DecidableEq

namespace Ring

def displayName (r : Ring) : String :=
  match r.destiny with
  | some destiny => destiny ++ ": " ++ r.name
  | none => r.name

def sourceId (r : Ring) : String :=
  "pactspirit:" ++ r.displayName

def modifiers {α : Type} [Number α] (r : Ring) : List (Modifier α) :=
  Affix.modifiers r.affix

def ofValue? (v : Value) : Option Ring := do
  let r ← Record.ofValue? .json [.plain "name", .defaulted "destinyType", .defaulted "affix"] v
  some ⟨← r.required? "name" Value.text?, ← r.optional? "destinyType" Value.text?,
    ← r.withDefault? "affix" Value.text? ""⟩

end Ring
end CharacterBuild
