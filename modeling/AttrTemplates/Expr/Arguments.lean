import AttrTemplates.Text.Blank

/-!
# `AttrTemplates.Expr.Arguments`: lists in directive arguments

A directive that takes several arguments separates them by semicolons; two semicolons in a row
stand for one inside an argument. White space around an argument does not belong to it, and an
argument that is empty then is left out.

While a list is split, a doubled semicolon is represented by one character, `mark`. The mark
itself, should a list contain it, therefore comes out as a semicolon too.
-/

set_option autoImplicit false

namespace AttrTemplates.Expr

/-- Represents a doubled semicolon. -/
def mark : Char := Char.ofNat 0x12345

/-- Replaces doubled semicolons, from left to right, by the mark. -/
def markDoubled : List Char → List Char
  | ';' :: ';' :: cs => mark :: markDoubled cs
  | c :: cs => c :: markDoubled cs
  | [] => []

/-- Replaces marks by semicolons. -/
def unmark (cs : List Char) : List Char := cs.map fun c => if c = mark then ';' else c

/-- The arguments in a list, as characters. -/
def argumentsOf (cs : List Char) : List (List Char) :=
  (((Text.splitAt ';' (markDoubled cs)).map Text.trim).filter (!·.isEmpty)).map unmark

/-- The arguments in a list. -/
def arguments (s : String) : List String := (argumentsOf s.toList).map String.ofList

end AttrTemplates.Expr
