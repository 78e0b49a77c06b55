/-!
# Tables of names

* `NameRow` — consecutive characters whose names start alike.
* `NameRow.find?`, `findInRows` — the character of a name.
-/

namespace ClosureLint.Text

/-- Consecutive characters: the first of them, what their names start with, and the rests of the
names, in texts in which commas separate them. -/
structure NameRow where
  first : Nat
  start : String
  rests : List String
deriving Repr, Inhabited

/-- The code point in a row whose name is `name`. -/
def NameRow.find? (row : NameRow) (name : List Char) : Option Nat :=
  match row.start.toList.isPrefixOf? name with
  | some rest =>
    ((row.rests.flatMap fun text => text.splitOn ",").idxOf? (String.ofList rest)).map
      (row.first + ·)
  | none => none

/-- The code point in a table whose name is `name`. -/
def findInRows (rows : List NameRow) (name : List Char) : Option Nat :=
  rows.findSome? fun row => row.find? name

end ClosureLint.Text
