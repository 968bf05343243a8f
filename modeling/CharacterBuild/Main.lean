import CharacterBuild.Command.Basic
import CharacterBuild.Number.Binary64

namespace CharacterBuild.Command

def dataFiles : List String :=
  ["constants.toml", "skills.toml", "templates.toml"]

def treeFiles : List String :=
  (Named.all : List TreeName).map (·.fileName)

def Request.reads : Request → List String × List (String × List String)
  | evaluate save trees data _ => ([save], (trees, treeFiles) :: data.toList.map ((·, dataFiles)))
  | showTree _ directory => ([], [(directory, treeFiles)])
  | listTrees directory => ([], [(directory, treeFiles)])
  | _ => ([], [])

/-- Whether an error says that something is there and is no text. One of the wrong type that names a file comes from
the way to it. -/
def isThere : IO.Error → Bool
  | .inappropriateType none .. => true
  | .permissionDenied .. => true
  | .userError _ => true
  | _ => false

def take (fs : Files) (path : String) : IO Files := do
  try
    return fs.write path (← IO.FS.readFile path)
  catch e =>
    return if isThere e then fs.makeDirectory path else fs

def takeIn (r : Request) : IO Files := do
  let fs ← r.reads.1.foldlM take .empty
  r.reads.2.foldlM (fun fs d => do
    d.2.foldlM (fun fs file => take fs (Files.join d.1 file)) (← take fs d.1)) fs

def perform (args : List String) : IO UInt32 := do
  let fs ← match request? args with
    | some r => takeIn r
    | none => pure .empty
  let a := run Float fs args
  for n in a.notices do
    if n.isWarning then IO.eprintln n.text
  match a.result with
  | .ok lines =>
    for l in lines do IO.println l
    return 0
  | .error e =>
    IO.eprintln ("Error: " ++ e.message?.getD "the request could not be carried out")
    return if e = .usage then 2 else 1

end CharacterBuild.Command

def main (args : List String) : IO UInt32 :=
  CharacterBuild.Command.perform args
