import CharacterBuild.Modifier.Basic

namespace CharacterBuild

structure Template (α : Type) where
  name : String
  levelScaling : α
  modifiers : List (Modifier α)
deriving DecidableEq

structure Templates (α : Type) where
  supports : List (Template α)
  passives : List (Template α)
deriving DecidableEq

inductive TemplateFault (α : Type) where
  | unsupportedScope (name : String) (effect : Effect α) (scope : Scope)
  | duplicateSupport
  | duplicatePassive
deriving DecidableEq

namespace TemplateFault

variable {α : Type} [Number α]

def message : TemplateFault α → String
  | unsupportedScope name effect scope =>
    "template '" ++ name ++ "' restricts " ++ effect.described ++ " to unsupported scope '" ++
      Named.name scope ++ "'"
  | duplicateSupport => "duplicate support template"
  | duplicatePassive => "duplicate passive template"

end TemplateFault

namespace Template

variable {α : Type} [Number α]

def levelFactor (scaling : α) (level : UInt32) : α :=
  1 + scaling * ((level.toNat - 1 : Nat) : α)

def atLevel (t : Template α) (level : UInt32) : List (Modifier α) :=
  t.modifiers.map (·.scaled (levelFactor t.levelScaling level))

def fault? (t : Template α) : Option (TemplateFault α) :=
  (t.modifiers.find? (!·.scopeAccepted)).map fun m => .unsupportedScope t.name m.effect m.scope

def firstFault? (duplicate : TemplateFault α) : List String → List (Template α) → Option (TemplateFault α)
  | _, [] => none
  | seen, t :: ts =>
    t.fault? <|> (if t.name ∈ seen then some duplicate else none) <|>
      firstFault? duplicate (t.name :: seen) ts

def ofValue? (modifiers : String) (v : Value) : Option (Template α) := do
  let r ← Record.ofValue? .toml [.plain "name", .defaulted "level_scaling", .defaulted modifiers] v
  some ⟨← r.required? "name" Value.text?, ← r.withDefault? "level_scaling" Value.number? 0,
    ← r.withDefault? modifiers (Value.list? (Modifier.ofValue? .toml)) []⟩

end Template

namespace Templates

variable {α : Type} [Number α]

/-- Supports come before passives, and either may use a name of the other. -/
def fault? (t : Templates α) : Option (TemplateFault α) :=
  Template.firstFault? .duplicateSupport [] t.supports <|>
    Template.firstFault? .duplicatePassive [] t.passives

def support? (t : Templates α) (name : String) : Option (Template α) :=
  t.supports.find? (·.name = name)

def passive? (t : Templates α) (name : String) : Option (Template α) :=
  t.passives.find? (·.name = name)

def ofValue? (v : Value) : Option (Templates α) := do
  let r ← Record.ofValue? .toml [.defaulted "supports", .defaulted "passives"] v
  some ⟨← r.withDefault? "supports" (Value.list? (Template.ofValue? "mods")) [],
    ← r.withDefault? "passives" (Value.list? (Template.ofValue? "buff_mods")) []⟩

end Templates
end CharacterBuild
