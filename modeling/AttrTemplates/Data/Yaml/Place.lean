/-!
# `AttrTemplates.Data.Yaml.Place`: places in a text that is indented

How far a line is indented decides what it belongs to, so reading keeps count of lines and
columns. A `Place` is what is still to come, with the number of characters before it, its line
and its column, all from zero. The byte order mark takes no column.
-/

set_option autoImplicit false

namespace AttrTemplates.Data.Yaml

/-- A character that ends a line. -/
def isBreak (c : Char) : Bool :=
  c == '\n' || c == '\r' || c.toNat == 0x85 || c.toNat == 0x2028 || c.toNat == 0x2029

/-- White space inside a line. -/
def isSpace (c : Char) : Bool := c == ' ' || c == '\t'

/-- Whether what comes next is the end of a line or of the text. -/
def atLineEnd (next : Option Char) : Bool := next.all isBreak

/-- Whether what comes next separates words: white space, or the end of the line or text. -/
def atGap (next : Option Char) : Bool := next.all fun c => isSpace c || isBreak c

/-- Whether what comes next is a space, or the end of the line or text. -/
def atSpaceOrEnd (next : Option Char) : Bool := next.all fun c => c == ' ' || isBreak c

/-- A place in a text. -/
structure Place where
  rest : List Char
  index : Nat
  line : Nat
  column : Nat
  deriving Repr, Inhabited

namespace Place

/-- The place before a text; a byte order mark in front of it is passed over. -/
def start : List Char → Place
  | '\uFEFF' :: cs => ⟨cs, 1, 0, 0⟩
  | cs => ⟨cs, 0, 0, 0⟩

/-- The next character. -/
def peek (p : Place) : Option Char := p.rest.head?

/-- The character `n` places on. -/
def peekAt (p : Place) (n : Nat) : Option Char := (p.rest.drop n).head?

/-- The place behind the next character. A carriage return ends a line unless a line feed
follows it. -/
def step (p : Place) : Place :=
  match p.rest with
  | [] => p
  | c :: cs =>
    if isBreak c && !(c == '\r' && cs.head? == some '\n') then ⟨cs, p.index + 1, p.line + 1, 0⟩
    else ⟨cs, p.index + 1, p.line, if c == '\uFEFF' then p.column else p.column + 1⟩

/-- The place `n` characters on. -/
def advance : (n : Nat) → Place → Place
  | 0, p => p
  | n + 1, p => advance n p.step

/-- The longest run of characters with a property, and the place behind it. -/
def run (f : Char → Bool) (p : Place) : List Char × Place :=
  let taken := p.rest.takeWhile f
  (taken, p.advance taken.length)

/-- The place behind all next characters with a property. -/
def skipRun (f : Char → Bool) (p : Place) : Place := (p.run f).2

/-- Whether the characters to come begin with a text. -/
def looksAt (s : String) (p : Place) : Bool := s.toList.isPrefixOf p.rest

/-- The line end at a place, as it is read, and the place behind it. Only the separators of
Unicode are not read as a line feed. -/
def lineBreak? (p : Place) : Option (Char × Place) :=
  match p.rest with
  | '\r' :: '\n' :: _ => some ('\n', p.advance 2)
  | c :: _ =>
    if c.toNat == 0x2028 || c.toNat == 0x2029 then some (c, p.step)
    else if isBreak c then some ('\n', p.step)
    else none
  | [] => none

/-- The place behind a line end, if there is one. -/
def passBreak (p : Place) : Place :=
  match p.lineBreak? with
  | some (_, behind) => behind
  | none => p

/-- Whether a mark of three characters that parts documents comes next, on a word of its own. -/
def atDocumentMark (p : Place) : Bool :=
  (p.looksAt "---" || p.looksAt "...") && atGap (p.peekAt 3)

/-- The place behind spaces and a comment, which has to be the end of the line. -/
def toLineEnd? (p : Place) : Option Place :=
  let p := p.skipRun (· == ' ')
  let p := if p.peek == some '#' then p.skipRun (!isBreak ·) else p
  if atLineEnd p.peek then some p.passBreak else none

end Place

end AttrTemplates.Data.Yaml
