import CharacterBuild.Modifier.Basic

namespace CharacterBuild

structure Configuration where
  counts : List (String × UInt32)
  customAffixes : List String
deriving DecidableEq

namespace Configuration

def empty : Configuration := ⟨[], []⟩

/-- At most the limit, which also stands for a count that is not configured. -/
def stackCount (c : Configuration) (per : Stacking) : UInt32 :=
  min ((c.counts.lookup per.stackable).getD per.limit) per.limit

def setCount (name : String) (count : UInt32) : List (String × UInt32) → List (String × UInt32)
  | [] => [(name, count)]
  | e :: es => if e.1 = name then (name, count) :: es else e :: setCount name count es

def countsOfValue? : Value → Option (List (String × UInt32))
  | .table entries => do
    let counts ← entries.mapM fun e => do some (e.1, ← e.2.count?)
    some (counts.foldl (fun cs e => setCount e.1 e.2 cs) [])
  | _ => none

def ofValue? (v : Value) : Option Configuration := do
  let r ← Record.ofValue? .json [.defaulted "stacks", .defaulted "customAffixes"] v
  some ⟨← r.withDefault? "stacks" countsOfValue? [],
    ← r.withDefault? "customAffixes" (Value.list? Value.text?) []⟩

end Configuration
end CharacterBuild
