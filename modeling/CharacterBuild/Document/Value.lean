import CharacterBuild.Number.Decimal

namespace CharacterBuild

/-- A well-formed scalar that stands for no value, such as half of a surrogate pair, is `unreadable`: an ignored
field may hold it. A date is a table of one field, its text. -/
inductive Value where
  | null
  | bool (b : Bool)
  | integer (n : Int)
  | real (x : Extended Decimal)
  | text (s : String)
  | list (items : List Value)
  | table (fields : List (String × Value))
  | unreadable

namespace Value

mutual

def readable : Nat → Value → Bool
  | _, .unreadable => false
  | depth + 1, .list items => readableItems depth items
  | depth + 1, .table fields => readableFields depth fields
  | 0, .list _ => false
  | 0, .table _ => false
  | _, _ => true

def readableItems (depth : Nat) : List Value → Bool
  | [] => true
  | v :: vs => readable depth v && readableItems depth vs

def readableFields (depth : Nat) : List (String × Value) → Bool
  | [] => true
  | (_, v) :: fs => readable depth v && readableFields depth fs

end

def isNothing : Value → Bool
  | .null => true
  | .table [] => true
  | _ => false

end Value
end CharacterBuild
