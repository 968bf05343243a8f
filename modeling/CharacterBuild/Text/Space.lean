namespace CharacterBuild.Text

/-- The characters with the White_Space property. -/
def isBlank (c : Char) : Bool :=
  let n := c.toNat
  (0x9 ≤ n && n ≤ 0xD) || n == 0x20 || n == 0x85 || n == 0xA0 || n == 0x1680 ||
    (0x2000 ≤ n && n ≤ 0x200A) || n == 0x2028 || n == 0x2029 || n == 0x202F || n == 0x205F ||
    n == 0x3000

variable {α : Type}

def splitOn (p : α → Bool) : List α → List (List α)
  | [] => [[]]
  | a :: as =>
    if p a then [] :: splitOn p as
    else match splitOn p as with
      | [] => [[a]]
      | piece :: rest => (a :: piece) :: rest

theorem splitOn_ne_nil (p : α → Bool) (as : List α) : splitOn p as ≠ [] := by
  cases as with
  | nil => simp [splitOn]
  | cons a as =>
    unfold splitOn
    split
    · simp
    · split <;> simp

theorem flatten_splitOn (p : α → Bool) (as : List α) :
    (splitOn p as).flatten = as.filter (fun a => !p a) := by
  induction as with
  | nil => rfl
  | cons a as ih =>
    unfold splitOn
    split
    · next h => simp [h, ih]
    · next h =>
      split
      · next hn => exact absurd hn (splitOn_ne_nil p as)
      · next piece rest hs => rw [hs] at ih; simp_all

def dropTail (p : α → Bool) (as : List α) : List α :=
  (as.reverse.dropWhile p).reverse

def words (cs : List Char) : List (List Char) :=
  (splitOn isBlank cs).filter (!·.isEmpty)

/-- A line feed ends a line, together with one carriage return before it. -/
def lines (s : String) : List String :=
  match (splitOn (· == '\n') s.toList).reverse with
  | [] => []
  | last :: ended =>
    let whole := ended.reverse.map fun l => if l.getLast? = some '\r' then l.dropLast else l
    (if last.isEmpty then whole else whole ++ [last]).map String.ofList

end CharacterBuild.Text
