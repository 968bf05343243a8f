import CharacterBuild.Document.Value
import CharacterBuild.Number.Text

namespace CharacterBuild.Json

def hexText (n : Nat) : List Char :=
  let ds := Nat.toDigits 16 n
  List.replicate (4 - ds.length) '0' ++ ds

def escape (c : Char) : List Char :=
  if c = '"' then ['\\', '"']
  else if c = '\\' then ['\\', '\\']
  else if c = '\n' then ['\\', 'n']
  else if c = '\r' then ['\\', 'r']
  else if c = '\t' then ['\\', 't']
  else if c = '\x08' then ['\\', 'b']
  else if c = '\x0c' then ['\\', 'f']
  else if c.toNat < 0x20 then '\\' :: 'u' :: hexText c.toNat
  else [c]

def quoted (s : String) : String :=
  .ofList ('"' :: s.toList.flatMap escape ++ ['"'])

def integerText (n : Int) : String :=
  .ofList (Extended.signed (n < 0) (Decimal.digitText n.natAbs))

def scalar : Value → String
  | .bool b => if b then "true" else "false"
  | .integer n => integerText n
  | .real x => (x.inDocument?).elim "null" .ofList
  | .text s => quoted s
  | _ => "null"

def newline (indented : Bool) (depth : Nat) : String :=
  if indented then .ofList ('\n' :: List.replicate (2 * depth) ' ') else ""

mutual

def write (indented : Bool) (depth : Nat) : Value → String
  | .list [] => "[]"
  | .list (v :: vs) =>
    "[" ++ newline indented (depth + 1) ++ write indented (depth + 1) v ++
      writeItems indented (depth + 1) vs ++ newline indented depth ++ "]"
  | .table [] => "\x7b\x7d"
  | .table ((name, v) :: fs) =>
    "\x7b" ++ newline indented (depth + 1) ++ quoted name ++ (if indented then ": " else ":") ++
      write indented (depth + 1) v ++ writeFields indented (depth + 1) fs ++ newline indented depth ++
      "\x7d"
  | v => scalar v

def writeItems (indented : Bool) (depth : Nat) : List Value → String
  | [] => ""
  | v :: vs =>
    "," ++ newline indented depth ++ write indented depth v ++ writeItems indented depth vs

def writeFields (indented : Bool) (depth : Nat) : List (String × Value) → String
  | [] => ""
  | (name, v) :: fs =>
    "," ++ newline indented depth ++ quoted name ++ (if indented then ": " else ":") ++
      write indented depth v ++ writeFields indented depth fs

end

def compact (v : Value) : String :=
  write false 0 v

def pretty (v : Value) : String :=
  write true 0 v

end CharacterBuild.Json
