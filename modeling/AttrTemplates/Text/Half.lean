/-!
# `AttrTemplates.Text.Half`: halves of characters

Two-byte encodings write characters beyond the first plane as two halves, with codes of their own.
Data may name such a code alone, in an escape; then it is no character, but part of a text all the
same. Here it is held as a character of the last private plane, at the same distance from its
beginning. No document may hold one.
-/

set_option autoImplicit false

namespace AttrTemplates.Text

/-- Whether a code is that of a half. -/
def isHalfCode (n : Nat) : Bool := 0xD800 ≤ n && n ≤ 0xDFFF

/-- Where the plane begins that holds halves. -/
def halfPlane : Nat := 0x100000

/-- The code of a half, if a character holds one. -/
def half? (c : Char) : Option Nat :=
  if halfPlane ≤ c.toNat && isHalfCode (c.toNat - halfPlane) then some (c.toNat - halfPlane)
  else none

/-- The character of a code, or the one that holds a half. -/
def charOfCode (n : Nat) : Char := if isHalfCode n then Char.ofNat (halfPlane + n) else Char.ofNat n

/-- The character that two halves make. -/
def wholeOf? (first second : Nat) : Option Char :=
  if 0xD800 ≤ first && first ≤ 0xDBFF && 0xDC00 ≤ second && second ≤ 0xDFFF then
    some (Char.ofNat (0x10000 + (first - 0xD800) * 0x400 + (second - 0xDC00)))
  else none

/-- The text of codes, in which the halves of a character stand together. -/
def ofCodes : List Nat → List Char
  | n :: m :: ns =>
    match wholeOf? n m with
    | some c => c :: ofCodes ns
    | none => charOfCode n :: ofCodes (m :: ns)
  | [n] => [charOfCode n]
  | [] => []

/-- The first stretch of halves in a text: the code of the first, its place, and that of the
last. -/
def firstHalves? (s : String) : Option (Nat × Nat × Nat) :=
  match s.toList.span fun c => (half? c).isNone with
  | (before, c :: cs) =>
    let more := (cs.takeWhile fun c => (half? c).isSome).length
    some ((half? c).getD 0, before.length, before.length + more)
  | (_, []) => none

example : ofCodes [0xD83D, 0xDE00] = ['😀'] := by decide

example : (ofCodes [0xD83D]).map half? = [some 0xD83D] := by decide

end AttrTemplates.Text
