namespace CharacterBuild.Text

def blanks (n : Nat) : String :=
  .ofList (List.replicate n ' ')

def padLeft (width : Nat) (s : String) : String :=
  blanks (width - s.length) ++ s

def padRight (width : Nat) (s : String) : String :=
  s ++ blanks (width - s.length)

end CharacterBuild.Text
