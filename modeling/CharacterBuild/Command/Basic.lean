import CharacterBuild.Command.Arguments
import CharacterBuild.Command.Report
import CharacterBuild.Document.JsonText
import CharacterBuild.GameData.Bundled

namespace CharacterBuild.Command

open Text

inductive Failure where
  | usage
  | noAffixText
  | dataNotLoaded (directory : String)
  | saveNotRead (path : String)
  | saveNotParsed (path : String)
  | treesNotLoaded (e : LoadError)
  | treesNotListed (e : LoadError)
  | treeNotLoaded (t : TreeName)
  | columnsOutOfRange
  | durationOutOfOrder
deriving DecidableEq

def Failure.message? : Failure → Option String
  | noAffixText => some "No affix text given"
  | dataNotLoaded directory => some ("Failed to load game data from " ++ directory)
  | saveNotRead path => some ("Failed to read " ++ path)
  | saveNotParsed path => some ("Failed to parse " ++ path)
  | treesNotLoaded e => ("Failed to load talent tree: " ++ ·) <$> e.message?
  | treesNotListed e => e.message?
  | treeNotLoaded t => some ("Failed to load tree " ++ Named.name t)
  | usage => none
  | columnsOutOfRange => none
  | durationOutOfOrder => none

structure Answer where
  result : Except Failure (List String)
  notices : List Notice

def orFail {β : Type} (f : Failure) : Option β → Except Failure β
  | some b => .ok b
  | none => .error f

def breakLines : List Char → List Char
  | [] => []
  | '\\' :: 'n' :: cs => '\n' :: breakLines cs
  | c :: cs => c :: breakLines cs

def treeLine (t : TreeName) : String :=
  padRight 22 (Named.name t) ++ " " ++ if t.isGod then "god" else "profession"

section

variable (α : Type) [Number α]

def formNames : List String :=
  (Affix.forms : List (Affix.Form α)).map (·.name)

def modifierLine (m : Modifier α) : String :=
  padRight 50 ((Affix.render m).getD "") ++ " " ++ m.effect.described ++ " " ++ Named.label m.scope ++
    " value=" ++ Number.plain m.value

def parseAffix (texts : List String) (json : Bool) : Except Failure (List String) :=
  if texts.isEmpty then .error .noAffixText
  else
    let text := String.ofList (breakLines ("\n".intercalate texts).toList)
    let ms : List (Modifier α) := Affix.modifiers text
    .ok <|
      if json then [Json.pretty (.list (ms.map Modifier.toValue))]
      else if ms.isEmpty then ["No modeled effect."]
      else ms.map (modifierLine α)

def onOneLine (s : String) : String :=
  .ofList (s.toList.flatMap fun c => if c = '\n' then [' ', '/', ' '] else [c])

def nodeLines (n : TalentNode) : List String :=
  ("  " ++ n.position.text ++ " " ++ Named.label n.type ++ " x" ++ n.maxPoints.toNat.repr ++ "  " ++
    onOneLine n.rawAffix ++
    if (Affix.modifiers n.rawAffix : List (Modifier α)).isEmpty then "  (no modeled effect)" else "") ::
    n.prerequisite.toList.map fun p => "      requires " ++ p.text

def treeLines (t : Tree) (columns : UInt32) : List String :=
  (t.name ++ " (" ++ columns.toNat.repr ++ " columns)") ::
    (t.nodes.mergeSort fun m n => !decide (n.position < m.position)).flatMap (nodeLines α)

def showTree (fs : Files) (t : TreeName) (directory : String) : Answer :=
  let loaded := TreeCache.empty.load (fs.fetchTree directory) t
  let result := do
    let tree ← loaded.result.mapError fun _ => .treeNotLoaded t
    let columns ← orFail .columnsOutOfRange tree.columnCount?
    .ok (treeLines α tree columns)
  ⟨result, loaded.notices⟩

def listTrees (fs : Files) (directory : String) : Except Failure (List String) :=
  ((fs.availableTrees directory).mapError .treesNotListed).map (·.map treeLine)

def loadData (fs : Files) : Option String → Except Failure (GameData α)
  | none => .ok .bundled
  | some directory => (GameData.load fs directory).mapError fun _ => .dataNotLoaded directory

def loadSave (fs : Files) (path : String) : Except Failure (Save α) := do
  let text ← (fs.read path).mapError fun _ => .saveNotRead path
  orFail (.saveNotParsed path) (Save.read? text)

def inputs (fs : Files) (save : String) (data : Option String) : Except Failure (GameData α × Save α) := do
  let d ← loadData α fs data
  let s ← loadSave α fs save
  .ok (d, s)

def evaluate (fs : Files) (save trees : String) (data : Option String) (format : Format) : Answer :=
  match inputs α fs save data with
  | .error e => ⟨.error e, []⟩
  | .ok (d, s) =>
    let built := Loadout.ofSave (fs.fetchTree trees) .empty s
    let result := do
      let l ← built.result.mapError .treesNotLoaded
      let o ← orFail .durationOutOfOrder (Damage.Offense.of? l s.configuration d)
      match format with
      | .json => .ok [Json.pretty (offenseValue o)]
      | .summary => .ok (summaryLines o)
    ⟨result, built.notices⟩

def answer (fs : Files) : Request → Answer
  | .evaluate save trees data format => evaluate α fs save trees data format
  | .parseAffix texts json => ⟨parseAffix α texts json, []⟩
  | .listForms => ⟨.ok (formNames α), []⟩
  | .listTrees directory => ⟨listTrees fs directory, []⟩
  | .showTree t directory => showTree α fs t directory

def run (fs : Files) (args : List String) : Answer :=
  match request? args with
  | some r => answer α fs r
  | none => ⟨.error .usage, []⟩

end

end CharacterBuild.Command
