import CharacterBuild.Affix.Form
import CharacterBuild.Affix.Token

namespace CharacterBuild.Affix

variable {α : Type} [Number α]

def readWords (fs : List (Form α)) (ts : List String) : Option (Modifier α) :=
  fs.findSome? (·.read? ts)

def parse (text : String) : Option (Modifier α) :=
  readWords forms (tokens text)

def wording? (m : Modifier α) : Option (List String) :=
  (forms : List (Form α)).findSome? (·.write? m)

def render (m : Modifier α) : Option String :=
  " ".intercalate <$> wording? m

def modifiers (text : String) : List (Modifier α) :=
  (Text.lines text).filterMap parse

end CharacterBuild.Affix
