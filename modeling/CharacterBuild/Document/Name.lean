import CharacterBuild.Document.Notation
import CharacterBuild.Text.Letter

namespace CharacterBuild

class Named (τ : Type) where
  all : List τ
  name : τ → String

namespace Named

variable {τ : Type} [Named τ]

def ofName? (s : String) : Option τ :=
  all.find? (name · == s)

def ofWord? (s : String) : Option τ :=
  all.find? (Text.sameLetters s <| name ·)

def ofEntry? (isNothing : Value → Bool) : Value → Option τ
  | .text s => ofName? s
  | .table [(s, v)] => if isNothing v then ofName? s else none
  | _ => none

def ofValue? (n : Notation) : Value → Option τ :=
  ofEntry? n.isNothing

def ofAside? : Value → Option τ :=
  ofEntry? Value.isNothing

def label (t : τ) : String :=
  Text.capitalized (name t)

end Named
end CharacterBuild
