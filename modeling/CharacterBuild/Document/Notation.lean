import CharacterBuild.Document.Value

namespace CharacterBuild

inductive Notation where
  | json
  | toml
deriving DecidableEq

namespace Notation

def isNothing : Notation → Value → Bool
  | .json, .null => true
  | .toml, .table [] => true
  | .toml, .list [] => true
  | _, _ => false

def ignoresRest : Notation → Bool
  | .json => false
  | .toml => true

def maxDepth : Nat := 126

def setsAside : Notation → Value → Bool
  | .json, v => v.readable maxDepth
  | .toml, _ => true

end Notation
end CharacterBuild
