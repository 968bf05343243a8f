import CharacterBuild.Affix.Basic

namespace CharacterBuild

structure Position where
  x : UInt32
  y : UInt32
deriving DecidableEq

namespace Position

instance : LT Position where
  lt p q := p.x < q.x ∨ p.x = q.x ∧ p.y < q.y

instance : DecidableLT Position := fun p q =>
  inferInstanceAs (Decidable (p.x < q.x ∨ p.x = q.x ∧ p.y < q.y))

theorem lt_def {p q : Position} : p < q ↔ p.x < q.x ∨ p.x = q.x ∧ p.y < q.y :=
  Iff.rfl

def nextColumn? (p : Position) : Option UInt32 :=
  let next := p.x + 1
  if next = 0 then none else some next

def text (p : Position) : String :=
  "(" ++ p.x.toNat.repr ++ ", " ++ p.y.toNat.repr ++ ")"

def ofValue? (v : Value) : Option Position := do
  let r ← Record.ofValue? .json [.plain "x", .plain "y"] v
  some ⟨← r.required? "x" Value.count?, ← r.required? "y" Value.count?⟩

end Position

inductive NodeType where
  | micro
  | medium
  | legendary
deriving DecidableEq

instance : Named NodeType where
  all := [.micro, .medium, .legendary]
  name
    | .micro => "micro"
    | .medium => "medium"
    | .legendary => "legendary"

structure TalentNode where
  type : NodeType
  rawAffix : String
  position : Position
  maxPoints : UInt32
  iconName : String
  prerequisite : Option Position
deriving DecidableEq

structure Tree where
  name : String
  nodes : List TalentNode
deriving DecidableEq

inductive LayoutFault where
  | noPoints (p : Position)
  | duplicate (p : Position)
  | missingPrerequisite (p pre : Position)
deriving DecidableEq

def LayoutFault.message : LayoutFault → String
  | noPoints p => "node at " ++ p.text ++ " has max_points 0"
  | duplicate p => "duplicate node at " ++ p.text
  | missingPrerequisite p pre => "node at " ++ p.text ++ " requires missing node " ++ pre.text

namespace Tree

def nodeAt? (t : Tree) (p : Position) : Option TalentNode :=
  t.nodes.find? (·.position = p)

def dependents (t : Tree) (p : Position) : List TalentNode :=
  t.nodes.filter (·.prerequisite = some p)

/-- One past the last column with a node, which has to fit into 32 bits for every node. -/
def columnCount? (t : Tree) : Option UInt32 := do
  let ends ← t.nodes.mapM fun n => n.position.nextColumn?
  some (ends.max?.getD 0)

def nodeFault? (t : Tree) (before : List TalentNode) (n : TalentNode) : Option LayoutFault :=
  if n.maxPoints = 0 then some (.noPoints n.position)
  else if before.any (·.position = n.position) then some (.duplicate n.position)
  else match n.prerequisite with
    | some pre =>
      if (t.nodeAt? pre).isNone then some (.missingPrerequisite n.position pre) else none
    | none => none

def firstFault? (t : Tree) : List TalentNode → List TalentNode → Option LayoutFault
  | _, [] => none
  | before, n :: after => t.nodeFault? before n <|> t.firstFault? (before ++ [n]) after

def fault? (t : Tree) : Option LayoutFault :=
  t.firstFault? [] t.nodes

end Tree

def TalentNode.ofValue? (v : Value) : Option TalentNode := do
  let r ← Record.ofValue? .json
    [.plain "nodeType", .plain "rawAffix", .plain "position", .plain "maxPoints", .defaulted "iconName",
      .defaulted "prerequisite"] v
  some ⟨← r.required? "nodeType" (Named.ofValue? .json), ← r.required? "rawAffix" Value.text?,
    ← r.required? "position" Position.ofValue?, ← r.required? "maxPoints" Value.count?,
    ← r.withDefault? "iconName" Value.text? "", ← r.optional? "prerequisite" Position.ofValue?⟩

def Tree.ofValue? (v : Value) : Option Tree := do
  let r ← Record.ofValue? .json [.plain "name", .plain "nodes"] v
  some ⟨← r.required? "name" Value.text?, ← r.required? "nodes" (Value.list? TalentNode.ofValue?)⟩

end CharacterBuild
