namespace CharacterBuild.Text

structure Run where
  first : Nat
  last : Nat

def Run.covers (r : Run) (c : Char) : Bool :=
  r.first ≤ c.toNat && c.toNat ≤ r.last

end CharacterBuild.Text
