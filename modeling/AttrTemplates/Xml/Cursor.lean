/-!
# `AttrTemplates.Xml.Cursor`: reading a text from front to back

A `Cursor` is a place in a text: what is still to come, and the line and column of its first
character, both counted from one. Lines end at a line feed. A reader either yields a value and
the place behind it or stops at a fault, and then all there is to say is where.

A text can break rules that do not keep a reader from going on. The first such objection counts
as the fault of the text when it has been read, unless a mere notice came after it.

Text that an entity stands for is read by a cursor of its own. A fault in it is reported at the
reference that led there.
-/

set_option autoImplicit false

namespace AttrTemplates.Xml

/-- A line and a column, counted from one. -/
structure Position where
  line : Nat
  column : Nat
  deriving DecidableEq, Repr, Inhabited

/-- What is remembered from the text read so far. -/
structure Findings where
  /-- Where a rule was broken first. -/
  objection : Option Position := none
  /-- Whether a notice came after the last objection. -/
  noticed : Bool := false
  /-- The identifiers of elements. -/
  ids : List String := []
  /-- The entities whose text is known to be content. -/
  checked : List String := []
  deriving Repr, Inhabited

/-- The objection that stands at the end of a text. -/
def Findings.verdict (f : Findings) : Option Position :=
  if f.noticed then none else f.objection

/-- A place in a text. -/
structure Cursor where
  rest : List Char
  position : Position
  /-- The place of the reference that led into this text. -/
  origin : Option Position := none
  findings : Findings := {}
  deriving Inhabited

/-- The place before the first character of a text. -/
def Cursor.start (cs : List Char) : Cursor := { rest := cs, position := ⟨1, 1⟩ }

/-- Where a fault found here is reported. -/
def Cursor.reported (c : Cursor) : Position := c.origin.getD c.position

/-- The position behind a character. -/
def Position.after (p : Position) (c : Char) : Position :=
  if c = '\n' then ⟨p.line + 1, 1⟩ else ⟨p.line, p.column + 1⟩

/-- The position behind a text. -/
def Position.afterAll (p : Position) (cs : List Char) : Position := cs.foldl Position.after p

/-- The position behind a text whose columns are counted in bytes of UTF-8. -/
def Position.afterBytes (p : Position) (cs : List Char) : Position :=
  cs.foldl (fun p c =>
    if c = '\n' then ⟨p.line + 1, 1⟩ else ⟨p.line, p.column + c.utf8Size⟩) p

/-- The place `n` characters on. -/
def Cursor.advance (c : Cursor) (n : Nat) : Cursor :=
  { c with rest := c.rest.drop n, position := c.position.afterAll (c.rest.take n) }

/-- A reader: a value and the place behind it, or the position of a fault. -/
abbrev Read := StateT Cursor (Except Position)

namespace Read

/-- Stops here. A text is at fault where it first broke a rule. -/
def stop {α : Type} : Read α := fun c => .error (c.findings.objection.getD c.reported)

/-- Changes what is remembered. -/
def remember (f : Findings → Findings) : Read Unit :=
  fun c => .ok ((), { c with findings := f c.findings })

/-- What is remembered. -/
def findings : Read Findings := fun c => .ok (c.findings, c)

/-- Objects to the text in front of this place and goes on. -/
def object : Read Unit := fun c =>
  let first := c.findings.objection.getD c.reported
  .ok ((), { c with findings := { c.findings with objection := some first, noticed := false } })

/-- Notes something unusual, which is no fault, and goes on. -/
def notice : Read Unit := remember fun f => { f with noticed := true }

/-- The characters to come. -/
def rest : Read (List Char) := fun c => .ok (c.rest, c)

/-- The next character, if there is one. -/
def peek : Read (Option Char) := fun c => .ok (c.rest.head?, c)

/-- The line on which reading goes on. -/
def line : Read Nat := fun c => .ok (c.position.line, c)

/-- Whether the characters to come begin with a text. -/
def looksAt (s : String) : Read Bool := fun c => .ok (s.toList.isPrefixOf c.rest, c)

/-- Passes over `n` characters. -/
def skip (n : Nat) : Read Unit := fun c => .ok ((), c.advance n)

/-- Passes over `n` characters, each as wide as its bytes. -/
def skipBytes (n : Nat) : Read Unit := fun c =>
  .ok ((), { c with rest := c.rest.drop n, position := c.position.afterBytes (c.rest.take n) })

/-- Passes over a character that takes up no column. -/
def skipUncounted : Read Unit := fun c => .ok ((), { c with rest := c.rest.drop 1 })

/-- Passes over a text that has to come next. -/
def expect (s : String) : Read Unit := do
  if ← looksAt s then skip s.length else stop

/-- Reads the longest run of characters with a property. -/
def takeWhile (p : Char → Bool) : Read (List Char) := fun c =>
  let (taken, rest) := c.rest.span p
  .ok (taken, { c with rest, position := c.position.afterAll taken })

/-- The blanks that may stand between the parts of a tag. -/
def isMarkupBlank (c : Char) : Bool := c == ' ' || c == '\t' || c == '\n' || c == '\r'

/-- Passes over blanks and tells whether there were any. -/
def blanks : Read Bool := do
  let taken ← takeWhile isMarkupBlank
  pure !taken.isEmpty

/-- Passes over blanks of which there has to be one. -/
def spaced : Read Unit := do
  if !(← blanks) then stop

/-- Reads a value from the text that a reference just passed stands for. -/
def within {α : Type} (text : List Char) (r : Read α) : Read α := fun c => do
  let inner : Cursor :=
    { rest := text, position := ⟨1, 1⟩, origin := some c.position, findings := c.findings }
  let (a, after) ← r inner
  .ok (a, { c with findings := after.findings })

/-- Reads a value from the beginning of a text. -/
def all {α : Type} (r : Read α) (cs : List Char) : Except Position (α × Findings) := do
  let (a, after) ← r (Cursor.start cs)
  pure (a, after.findings)

end Read

end AttrTemplates.Xml
