import CharacterBuild.Text.Lowercase
import CharacterBuild.Text.Space

namespace CharacterBuild.Affix

open Text

def isMark (c : Char) : Bool :=
  c = '.' || c = ','

def tokens (text : String) : List String :=
  ((words (lower text.toList)).map (dropTail isMark)).filterMap fun w =>
    if w.isEmpty then none else some (.ofList w)

end CharacterBuild.Affix
