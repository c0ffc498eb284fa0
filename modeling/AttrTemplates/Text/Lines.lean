/-!
# `AttrTemplates.Text.Lines`: the lines of a text

A line ends at a line feed, a carriage return (one line end together with a line feed after
it), a vertical tab, a form feed, one of `U+001C` to `U+001E`, `U+0085`, `U+2028` or `U+2029`.
A line end closes the line before it, so a text that ends with one has no empty last line.
-/

set_option autoImplicit false

namespace AttrTemplates.Text

/-- The characters that end a line. -/
def endsLine (c : Char) : Bool :=
  let n := c.toNat
  (0x0A ≤ n && n ≤ 0x0D) || (0x1C ≤ n && n ≤ 0x1E) || n == 0x85 || n == 0x2028 || n == 0x2029

/-- The lines of a text whose first line already has the characters `started`, in reverse;
`pending` tells whether that line exists even when no character follows. -/
def linesFrom (started : List Char) (pending : Bool) : List Char → List (List Char)
  | [] => if pending then [started.reverse] else []
  | '\r' :: '\n' :: cs => started.reverse :: linesFrom [] false cs
  | c :: cs =>
    if endsLine c then started.reverse :: linesFrom [] false cs
    else linesFrom (c :: started) true cs

/-- The lines of a text, without their line ends. -/
def lines (s : String) : List String :=
  (linesFrom [] false s.toList).map String.ofList

end AttrTemplates.Text
