import AttrTemplates.Failure

/-!
# `AttrTemplates.Data.Scan`: reading data from text

A `Scan` takes characters from the front of a text and yields what they stand for. It fails with
a `Fault`: nearly always the text is just malformed, and where is not reported; now and then
well-formed data stands for nothing, which is a failure of its own kind. Data without end are set
apart from both.
-/

set_option autoImplicit false

namespace AttrTemplates.Data

/-- Why there is no value for data. -/
inductive Fault where
  | malformed
  | failure (f : Failure)
  /-- Something in the data lies in itself. That is no mistake, but values are trees, and a tree
  has an end. -/
  | endless
  deriving Repr

/-- A reader of characters: what they stand for, and the characters behind them. -/
abbrev Scan := StateT (List Char) (Except Fault)

namespace Scan

/-- The characters to come. -/
def rest : Scan (List Char) := get

/-- The next character, if there is one. -/
def peek : Scan (Option Char) := do pure (← rest).head?

/-- Whether the characters to come begin with a text. -/
def looksAt (s : String) : Scan Bool := do pure (s.toList.isPrefixOf (← rest))

/-- Passes over `n` characters. -/
def skip (n : Nat) : Scan Unit := modify (·.drop n)

/-- Passes over a text if it comes next, and tells whether it did. -/
def accept (s : String) : Scan Bool := do
  if ← looksAt s then
    skip s.length
    pure true
  else pure false

/-- Passes over a text that has to come next. -/
def expect (s : String) : Scan Unit := do
  if !(← accept s) then throw .malformed

/-- Reads the longest run of characters with a property. -/
def takeWhile (p : Char → Bool) : Scan (List Char) := do
  let cs ← rest
  set (cs.dropWhile p)
  pure (cs.takeWhile p)

/-- Passes over all next characters with a property. -/
def skipWhile (p : Char → Bool) : Scan Unit := modify (·.dropWhile p)

/-- What a function makes of the characters to come; it fails with `none`. -/
def ofOption {α : Type} (f : List Char → Option (α × List Char)) : Scan α := do
  match f (← rest) with
  | some (a, cs) =>
    set cs
    pure a
  | none => throw .malformed

/-- Reads something from a text, all of it. -/
def all {α : Type} (r : Scan α) (cs : List Char) : Except Fault α := do
  let (a, behind) ← r.run cs
  if behind.isEmpty then pure a else throw .malformed

end Scan

end AttrTemplates.Data
