/-!
# `AttrTemplates.Text.Charset.Grid`: characters in rows and cells

Many character sets number their characters by two coordinates. `Grid.ofRows` takes the rows as
texts, in which `U+FFFD` stands for a cell without character.
-/

set_option autoImplicit false

namespace AttrTemplates.Text

/-- Characters in rows. -/
structure Grid where
  rows : Array (Array Char)

/-- The grid with the rows given. -/
def Grid.ofRows (rows : List String) : Grid := ⟨(rows.map fun r => r.toList.toArray).toArray⟩

/-- The character in a cell of a row. -/
def cellOf? (row : Array Char) (cell : Nat) : Option Char :=
  row[cell]?.filter (· != '\uFFFD')

/-- The character in a cell. -/
def Grid.cell? (g : Grid) (row cell : Nat) : Option Char := do
  let r ← g.rows[row]?
  cellOf? r cell

/-- Whether a character is in a grid. -/
def Grid.has (g : Grid) (c : Char) : Bool := c != '\uFFFD' && g.rows.any (·.contains c)

/-- The character in a cell of the rows given by number, if one of them has it. -/
def cellIn? (rows : List (Nat × String)) (row cell : Nat) : Option Char := do
  let r ← rows.lookup row
  cellOf? r.toList.toArray cell

/-- Whether a character is in rows given by number. -/
def inRows (rows : List (Nat × String)) (c : Char) : Bool :=
  c != '\uFFFD' && rows.any fun (_, chars) => chars.contains c

/-- The character at a place in runs, which begin at places given by two numbers. -/
def runAt? (runs : List (Nat × Nat × String)) (row cell : Nat) : Option Char :=
  runs.findSome? fun (r, first, chars) =>
    if r == row && first ≤ cell then chars.toList[cell - first]? else none

/-- Whether a character is in runs. -/
def inRuns (runs : List (Nat × Nat × String)) (c : Char) : Bool :=
  runs.any fun (_, _, chars) => chars.contains c

end AttrTemplates.Text
