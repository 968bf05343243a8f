import CharacterBuild.Document.Json
import CharacterBuild.Files
import CharacterBuild.Notice
import CharacterBuild.Text.Quoted

/-! Trees come from a fetcher, such as a directory of layouts, and are kept once they have been fetched. -/

namespace CharacterBuild

inductive LoadError where
  | io (path : String) (fault : FileFault)
  | parse (path : String)
  | invalid (tree : TreeName) (fault : LayoutFault)
  | notFetched (tree : TreeName) (message : String)
deriving DecidableEq

def LoadError.message? : LoadError → Option String
  | io path fault => some ("IO error reading '" ++ Text.quoted path ++ "': " ++ fault.message)
  | parse _ => none
  | invalid t fault => some ("Invalid tree '" ++ Named.name t ++ "': " ++ fault.message)
  | notFetched t message => some ("Failed to fetch tree '" ++ Named.name t ++ "': " ++ message)

abbrev Fetcher (ε : Type) := TreeName → Except ε Tree

namespace Files

def fetchTree (fs : Files) (root : String) : Fetcher LoadError := fun t => do
  let path := join root t.fileName
  let text ← (fs.read path).mapError (.io path)
  let tree ← match Json.read? text >>= Tree.ofValue? with
    | some tree => .ok tree
    | none => .error (.parse path)
  match tree.fault? with
  | some fault => .error (.invalid t fault)
  | none => .ok tree

def availableTrees (fs : Files) (root : String) : Except LoadError (List TreeName) := do
  let names ← (fs.list root).mapError (.io root)
  let found := names.filterMap TreeName.ofFileName?
  .ok (Named.all.flatMap fun t => List.replicate (found.count t) t)

end Files

structure TreeCache where
  trees : List (TreeName × Tree)

structure Outcome (ε β : Type) where
  result : Except ε β
  cache : TreeCache
  notices : List Notice

namespace TreeCache

variable {ε : Type}

def empty : TreeCache := ⟨[]⟩

def get? (c : TreeCache) (t : TreeName) : Option Tree :=
  c.trees.lookup t

def contains (c : TreeCache) (t : TreeName) : Bool :=
  (c.get? t).isSome

def size (c : TreeCache) : Nat :=
  c.trees.length

/-- A fetch is told of before it is tried. A tree that is kept is not fetched again, and a failure is not kept. -/
def load (c : TreeCache) (fetch : Fetcher ε) (t : TreeName) : Outcome ε Tree :=
  match c.get? t with
  | some tree => ⟨.ok tree, c, []⟩
  | none => match fetch t with
    | .ok tree => ⟨.ok tree, ⟨c.trees ++ [(t, tree)]⟩, [.fetchingTree t]⟩
    | .error e => ⟨.error e, c, [.fetchingTree t]⟩

end TreeCache
end CharacterBuild
