import CharacterBuild.Document.Value

/-! Tables of a TOML document while it is read. How a table came to be decides what may still be added to it. -/

namespace CharacterBuild.Toml

/-- A table is opened by its own header, implied by the header of a table inside it, or made by a dotted key. -/
inductive Origin where
  | header
  | implied
  | dotted

inductive Node where
  | leaf (v : Value)
  | table (origin : Origin) (entries : List (String × Node))
  | tables (items : List (List (String × Node)))

abbrev Members := List (String × Node)

def alter (k : String) (f : Option Node → Option Node) : Members → Option Members
  | [] => do some [(k, ← f none)]
  | (k', n) :: es =>
    if k' = k then do some ((k, ← f (some n)) :: es)
    else do some ((k', n) :: (← alter k f es))

def onLast (f : Members → Option Members) : List Members → Option (List Members)
  | [] => none
  | [es] => do some [← f es]
  | es :: rest => do some (es :: (← onLast f rest))

/-- Sets the value of a dotted key. `here` tells whether this table takes values of its own from it. -/
def insert (v : Value) : List String → Bool → Members → Option Members
  | [], _, _ => none
  | [k], here, es => do
    guard here
    alter k (fun | none => some (.leaf v) | some _ => none) es
  | k :: ks, _, es =>
    es |> alter k fun
      | none => .table .dotted <$> insert v ks true []
      | some (.table .dotted sub) => .table .dotted <$> insert v ks true sub
      | some (.table .implied sub) => .table .implied <$> insert v ks false sub
      | some (.tables items) => .tables <$> onLast (insert v ks false) items
      | some _ => none

def within (f : Members → Option Members) : List String → Members → Option Members
  | [], es => f es
  | k :: ks, es =>
    es |> alter k fun
      | none => .table .implied <$> within f ks []
      | some (.table origin sub) => .table origin <$> within f ks sub
      | some (.tables items) => .tables <$> onLast (within f ks) items
      | some (.leaf _) => none

def openTable (k : String) : Members → Option Members :=
  alter k fun
    | none => some (.table .header [])
    | some (.table .implied sub) => some (.table .header sub)
    | some _ => none

def openItem (k : String) : Members → Option Members :=
  alter k fun
    | none => some (.tables [[]])
    | some (.tables items) => some (.tables (items ++ [[]]))
    | some _ => none

mutual

def Node.value : Node → Value
  | .leaf v => v
  | .table _ es => .table (entryValues es)
  | .tables items => .list (itemValues items)

def entryValues : Members → List (String × Value)
  | [] => []
  | (k, n) :: es => (k, n.value) :: entryValues es

def itemValues : List Members → List Value
  | [] => []
  | es :: rest => .table (entryValues es) :: itemValues rest

end

end CharacterBuild.Toml
