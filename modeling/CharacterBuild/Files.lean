import CharacterBuild.Text.Space

/-! A table of files: what a program may read, taken in at once. A path is followed part by part, and each part is looked
up in a directory that is there. -/

namespace CharacterBuild

/-- The names from the working directory down, after one `..` for each step above it. An absolute path begins with
`/`. -/
abbrev FilePath := List String

structure Files where
  directories : List FilePath
  contents : List (FilePath × String)

inductive FileFault where
  | notFound
  | notDirectory
  | isDirectory
  | nameTooLong
  | nulByte
deriving DecidableEq

def FileFault.message : FileFault → String
  | notFound => "No such file or directory (os error 2)"
  | notDirectory => "Not a directory (os error 20)"
  | isDirectory => "Is a directory (os error 21)"
  | nameTooLong => "File name too long (os error 36)"
  | nulByte => "file name contained an unexpected NUL byte"

namespace FilePath

def start (s : String) : FilePath :=
  if s.toList.head? = some '/' then ["/"] else []

def parts (s : String) : List String :=
  (Text.splitOn (· = '/') s.toList).map .ofList

def parent (d : FilePath) : FilePath :=
  if d = ["/"] then d else if d.all (· = "..") then d ++ [".."] else d.dropLast

def step (d : FilePath) (part : String) : FilePath :=
  if part = "" ∨ part = "." then d else if part = ".." then parent d else d ++ [part]

def stations (d : FilePath) : List String → List FilePath
  | [] => []
  | part :: rest => d :: stations (step d part) rest

def destination (s : String) : FilePath :=
  (parts s).foldl step (start s)

end FilePath

namespace Files

def empty : Files := ⟨[], []⟩

def join (directory file : String) : String :=
  match directory.toList.getLast? with
  | none => file
  | some '/' => directory ++ file
  | some _ => directory ++ "/" ++ file

/-- The working directory, those above it and the root are there without being listed. -/
def hasDirectory (fs : Files) (d : FilePath) : Bool :=
  d.all (· = "..") || d = ["/"] || fs.directories.contains d

def fault (fs : Files) (d : FilePath) : FileFault :=
  if (fs.contents.lookup d).isSome then .notDirectory else .notFound

def maxName : Nat := 255

def maxPath : Nat := 4095

def follow (fs : Files) (d : FilePath) : List String → Except FileFault FilePath
  | [] => .ok d
  | part :: rest =>
    if !fs.hasDirectory d then .error (fs.fault d)
    else if maxName < part.utf8ByteSize then .error .nameTooLong
    else fs.follow (FilePath.step d part) rest

def resolve (fs : Files) (s : String) : Except FileFault FilePath :=
  if s.toList.contains '\x00' then .error .nulByte
  else if s.isEmpty then .error .notFound
  else if maxPath < s.utf8ByteSize then .error .nameTooLong
  else fs.follow (FilePath.start s) (FilePath.parts s)

def read (fs : Files) (s : String) : Except FileFault String := do
  let p ← fs.resolve s
  match fs.contents.lookup p with
  | some text => .ok text
  | none => .error (if fs.hasDirectory p then .isDirectory else .notFound)

def list (fs : Files) (s : String) : Except FileFault (List String) := do
  let d ← fs.resolve s
  if fs.hasDirectory d then
    .ok <| (fs.contents.map (·.1) ++ fs.directories.eraseDups).filterMap fun p =>
      if p.dropLast = d then p.getLast? else none
  else .error (fs.fault d)

def makeDirectory (fs : Files) (s : String) : Files :=
  { fs with
    directories := FilePath.destination s :: FilePath.stations (FilePath.start s) (FilePath.parts s) ++
      fs.directories }

def write (fs : Files) (s text : String) : Files :=
  let p := FilePath.destination s
  { directories := FilePath.stations (FilePath.start s) (FilePath.parts s) ++ fs.directories
    contents := fs.contents.filter (·.1 ≠ p) ++ [(p, text)] }

def remove (fs : Files) (s : String) : Files :=
  { fs with contents := fs.contents.filter (·.1 ≠ FilePath.destination s) }

end Files
end CharacterBuild
