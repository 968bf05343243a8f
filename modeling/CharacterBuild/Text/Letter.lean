namespace CharacterBuild.Text

def sameLetters (s t : String) : Bool :=
  s.toList.map Char.toLower == t.toList.map Char.toLower

def capitalized (s : String) : String :=
  .ofList (go true s.toList)
where
  go (start : Bool) : List Char → List Char
    | [] => []
    | c :: cs => if c = '_' then go true cs else (if start then c.toUpper else c) :: go false cs

end CharacterBuild.Text
