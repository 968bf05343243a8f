import CharacterBuild.Talent.TreeName

namespace CharacterBuild.Command

inductive Format where
  | summary
  | json
deriving DecidableEq

instance : Named Format where
  all := [.summary, .json]
  name
    | .summary => "summary"
    | .json => "json"

inductive Request where
  | evaluate (save trees : String) (data : Option String) (format : Format)
  | parseAffix (texts : List String) (json : Bool)
  | listForms
  | listTrees (directory : String)
  | showTree (name : TreeName) (directory : String)
deriving DecidableEq

structure Flag where
  name : String
  letter : Option Char
  isSwitch : Bool

structure Parsed where
  options : List (String × String)
  positional : List String

inductive Shape where
  | endOfOptions
  | option (flag : Option Flag) (value : Option String)
  | positional

def splitAtEquals (cs : List Char) : List Char × Option String :=
  match cs.dropWhile (· != '=') with
  | [] => (cs, none)
  | _ :: value => (cs.takeWhile (· != '='), some (.ofList value))

def joinedValue : List Char → Option String
  | [] => none
  | '=' :: value => some (.ofList value)
  | value => some (.ofList value)

def shape (flags : List Flag) (arg : String) : Shape :=
  match arg.toList with
  | ['-', '-'] => .endOfOptions
  | '-' :: '-' :: cs =>
    let (name, value) := splitAtEquals cs
    .option (flags.find? (·.name == .ofList name)) value
  | '-' :: c :: cs => .option (flags.find? (·.letter == some c)) (joinedValue cs)
  | _ => .positional

def parse (flags : List Flag) : Parsed → List String → Option Parsed
  | p, [] => some p
  | p, arg :: args => match shape flags arg with
    | .endOfOptions => some { p with positional := p.positional ++ args }
    | .positional => parse flags { p with positional := p.positional ++ [arg] } args
    | .option none _ => none
    | .option (some f) value =>
      if (p.options.lookup f.name).isSome then none
      else if f.isSwitch then
        if value.isSome then none else parse flags { p with options := (f.name, "") :: p.options } args
      else match value, args with
        | some v, args => parse flags { p with options := (f.name, v) :: p.options } args
        | none, v :: args => match shape flags v with
          | .positional => parse flags { p with options := (f.name, v) :: p.options } args
          | _ => none
        | none, [] => none

def nonempty? (s : String) : Option String :=
  if s.isEmpty then none else some s

namespace Parsed

def has (p : Parsed) (name : String) : Bool :=
  (p.options.lookup name).isSome

def path? (p : Parsed) (name : String) : Option (Option String) :=
  match p.options.lookup name with
  | none => some none
  | some s => some <$> nonempty? s

end Parsed

def treesFlag : Flag := ⟨"trees", some 't', false⟩

def evaluate? (args : List String) : Option Request := do
  let p ← parse [treesFlag, ⟨"data", some 'd', false⟩, ⟨"format", some 'f', false⟩] ⟨[], []⟩ args
  let trees ← p.path? "trees"
  let data ← p.path? "data"
  let format ← match p.options.lookup "format" with
    | none => some .summary
    | some s => Named.ofName? s
  match p.positional with
  | [save] => some (.evaluate (← nonempty? save) (← trees) data format)
  | _ => none

def parseAffix? (args : List String) : Option Request := do
  let p ← parse [⟨"json", none, true⟩, ⟨"forms", none, true⟩] ⟨[], []⟩ args
  if p.has "forms" then
    guard p.positional.isEmpty
    some .listForms
  else some (.parseAffix p.positional (p.has "json"))

def tree? (args : List String) : Option Request := do
  let p ← parse [treesFlag] ⟨[], []⟩ args
  let trees ← p.path? "trees"
  match p.positional with
  | [] => some (.listTrees (← trees))
  | [name] => some (.showTree (← Named.ofWord? name) (← trees))
  | _ => none

def request? : List String → Option Request
  | "evaluate" :: args => evaluate? args
  | "parse-affix" :: args => parseAffix? args
  | "tree" :: args => tree? args
  | _ => none

end CharacterBuild.Command
