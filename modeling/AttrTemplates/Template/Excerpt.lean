import AttrTemplates.Text.Lines

/-!
# `AttrTemplates.Template.Excerpt`: the place of a fault in its source

An excerpt shows the lines around a line of a source, each with its number, marks that line, and
puts a caret under a column of it.
-/

set_option autoImplicit false

namespace AttrTemplates

/-- `n` spaces. -/
def spaces (n : Nat) : String := String.ofList (List.replicate n ' ')

/-- A line number, flushed right. -/
def flushedRight (width n : Nat) : String :=
  let digits := toString n
  spaces (width - digits.length) ++ digits

/-- A row that shows a line. -/
def lineRow (width : Nat) (marked : Bool) (number : Nat) (line : String) : String :=
  (if marked then ">" else " ") ++ " " ++ flushedRight width number ++ " | " ++ line

/-- The row with the caret. -/
def caretRow (width : Nat) (column : Int) : String :=
  "  " ++ spaces width ++ " | " ++ spaces (column - 1).toNat ++ "^"

/-- The rows of an excerpt for numbered lines. -/
def excerptRows (width : Nat) (line : Nat) (column : Option Int) :
    List (Nat × String) → List String
  | [] => []
  | (number, text) :: rest =>
    let row := lineRow width (number == line) number text
    let rows := excerptRows width line column rest
    match number == line, column.filter (· != 0) with
    | true, some c => row :: caretRow width c :: rows
    | _, _ => row :: rows

/-- The lines `first` to `last` of a text, with their numbers. -/
def numberedLines (lines : List String) (first last : Nat) : List (Nat × String) :=
  ((lines.zipIdx 1).map fun (s, i) => (i, s)).filter fun (i, _) => first ≤ i && i ≤ last

/-- The excerpt of a source around a line; empty when there is no such line. -/
def excerpt (source : String) (line : Int) (column : Option Int) (radius : Int := 2) : String :=
  let lines := Text.lines source
  if line < 1 ∨ line > lines.length then ""
  else
    let first := (max 1 (line - radius)).toNat
    let last := (min (lines.length : Int) (line + radius)).toNat
    let width := (toString (min (lines.length : Int) (line + radius))).length
    "\n".intercalate (excerptRows width line.toNat column (numberedLines lines first last))

end AttrTemplates
