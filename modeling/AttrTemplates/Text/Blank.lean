/-!
# `AttrTemplates.Text.Blank`: white space, and trimming it

White space in expressions, arguments and text is one set: the ASCII blanks, the separators of
Unicode and the four information separators `U+001C` to `U+001F`. The zero-width characters
`U+200B` and `U+FEFF` are not in it. Formats of data and documents have sets of their own.
-/

set_option autoImplicit false

namespace AttrTemplates.Text

/-- White space. -/
def isBlank (c : Char) : Bool :=
  let n := c.toNat
  (0x09 ≤ n && n ≤ 0x0D) || (0x1C ≤ n && n ≤ 0x20) || n == 0x85 || n == 0xA0 || n == 0x1680
    || (0x2000 ≤ n && n ≤ 0x200A) || n == 0x2028 || n == 0x2029 || n == 0x202F || n == 0x205F
    || n == 0x3000

/-- A text without the white space at its start. -/
def trimStart (cs : List Char) : List Char := cs.dropWhile isBlank

/-- A text without the white space at its end. -/
def trimEnd (cs : List Char) : List Char := (cs.reverse.dropWhile isBlank).reverse

/-- A text without the white space at either end. -/
def trim (cs : List Char) : List Char := trimEnd (trimStart cs)

/-- The pieces of a text between the occurrences of a separator; one more than there are
separators. -/
def splitAt (sep : Char) : List Char → List (List Char)
  | [] => [[]]
  | c :: cs =>
    if c = sep then [] :: splitAt sep cs
    else match splitAt sep cs with
      | [] => [[c]]
      | piece :: pieces => (c :: piece) :: pieces

/-- Nothing is left of nothing. -/
@[simp] theorem trim_nil : trim [] = [] := rfl

/-- There is always a first piece. -/
theorem splitAt_ne_nil (sep : Char) (cs : List Char) : splitAt sep cs ≠ [] := by
  cases cs with
  | nil => simp [splitAt]
  | cons c cs =>
    unfold splitAt
    split
    · simp
    · split <;> simp

/-- Trimming the start leaves no white space there. -/
theorem head?_trimStart_not_blank (cs : List Char) (c : Char)
    (h : (trimStart cs).head? = some c) : isBlank c = false := by
  have := List.head?_dropWhile_not isBlank cs
  unfold trimStart at h
  rw [h] at this
  simpa using this

end AttrTemplates.Text
