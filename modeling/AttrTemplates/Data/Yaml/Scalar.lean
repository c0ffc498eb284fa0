import AttrTemplates.Data.Scan
import AttrTemplates.Data.Yaml.Place
import AttrTemplates.Number.Digits
import AttrTemplates.Text.Half

/-!
# `AttrTemplates.Data.Yaml.Scalar`: the written forms of a text

A text is written plainly, in quotes of two kinds, or as a block of indented lines. In all of
them lines are folded: a single line end between words is a space, and of more line ends the
first is dropped. A block that begins with a bar keeps its lines.
-/

set_option autoImplicit false

namespace AttrTemplates.Data.Yaml

/-- The text of a line end with more line ends behind it, after folding. -/
def folded (first : Char) (more : List Char) : List Char :=
  if first != '\n' then first :: more
  else if more.isEmpty then [' ']
  else more

/-! ### Plain text -/

/-- Whether a colon with this behind it ends a plain text. -/
def endsKey (inFlow : Bool) (next : Option Char) : Bool :=
  atGap next || (inFlow && next.any fun c => c == ',' || c == '[' || c == ']' || c == '{' || c == '}')

/-- A character that ends a plain text inside brackets. -/
def endsFlowWord (c : Char) : Bool :=
  c == ',' || c == '?' || c == '[' || c == ']' || c == '{' || c == '}'

/-- The next word of a plain text. -/
def plainWord (inFlow : Bool) : List Char → List Char
  | [] => []
  | c :: cs =>
    if isSpace c || isBreak c || (c == ':' && endsKey inFlow cs.head?)
        || (inFlow && endsFlowWord c) then []
    else c :: plainWord inFlow cs

/-- Line ends with spaces between them, up to a mark that parts documents; `none` if such a mark
comes at the beginning of a line. -/
def moreBreaks (read : List Char) (p : Place) : (fuel : Nat) → Option (List Char) × Place
  | 0 => (none, p)
  | fuel + 1 =>
    if p.peek == some ' ' then moreBreaks read p.step fuel
    else match p.lineBreak? with
      | some (c, behind) =>
        if behind.atDocumentMark then (none, behind) else moreBreaks (read ++ [c]) behind fuel
      | none => (some read, p)

/-- What stands between two words of a plain text, the place behind it, and whether a line ends
there. Nothing stands behind the last word. -/
def plainGap (p : Place) : List Char × Place × Bool :=
  let (spaces, p) := p.run (· == ' ')
  match p.lineBreak? with
  | none => (spaces, p, false)
  | some (c, behind) =>
    if behind.atDocumentMark then ([], behind, true)
    else match moreBreaks [] behind (behind.rest.length + 1) with
      | (some more, p) => (folded c more, p, true)
      | (none, p) => ([], p, true)

/-- Reads a plain text whose further lines have at least the indentation `indent`. `gap` stands
before the next word. The result tells whether the text ends at the beginning of a line. -/
def plainFrom (inFlow : Bool) (indent : Int) (read gap : List Char) (atStart : Bool) (p : Place) :
    (fuel : Nat) → List Char × Place × Bool
  | 0 => (read, p, atStart)
  | fuel + 1 =>
    let word := plainWord inFlow p.rest
    if p.peek == some '#' || word.isEmpty then (read, p, atStart)
    else
      let read := read ++ gap ++ word
      let (gap, p, broken) := plainGap (p.advance word.length)
      if gap.isEmpty || p.peek == some '#' || (!inFlow && p.column < indent) then (read, p, broken)
      else plainFrom inFlow indent read gap broken p fuel

/-- Reads a plain text. -/
def plain (inFlow : Bool) (indent : Int) (p : Place) : List Char × Place × Bool :=
  plainFrom inFlow indent [] [] false p (p.rest.length + 1)

/-! ### Text in quotes -/

/-- The character that an escape of one letter stands for. -/
def escaped? : Char → Option Char
  | '0' => some (Char.ofNat 0)
  | 'a' => some '\x07'
  | 'b' => some '\x08'
  | 't' => some '\t'
  | '\t' => some '\t'
  | 'n' => some '\n'
  | 'v' => some '\x0b'
  | 'f' => some '\x0c'
  | 'r' => some '\r'
  | 'e' => some '\x1b'
  | ' ' => some ' '
  | '"' => some '"'
  | '\\' => some '\\'
  | '/' => some '/'
  | 'N' => some (Char.ofNat 0x85)
  | '_' => some (Char.ofNat 0xA0)
  | 'L' => some (Char.ofNat 0x2028)
  | 'P' => some (Char.ofNat 0x2029)
  | _ => none

/-- The number of digits behind the letter of an escape that gives a character by its number. -/
def escapeLength? : Char → Option Nat
  | 'x' => some 2
  | 'u' => some 4
  | 'U' => some 8
  | _ => none

/-- The character of a number, which may be half of one. -/
def numberedChar (n : Nat) : Except Fault Char :=
  if n < 0x110000 then .ok (Text.charOfCode n)
  else if n < 0x80000000 then .error .malformed
  else .error (.failure (.raised .overflowError "Python int too large to convert to C int"))

/-- The line ends at a place with the white space around them, for text in quotes, which no mark
that parts documents may interrupt. -/
def quotedBreaks (read : List Char) (p : Place) : (fuel : Nat) → Except Fault (List Char × Place)
  | 0 => .error .malformed
  | fuel + 1 =>
    if p.atDocumentMark then .error .malformed
    else
      let p := p.skipRun isSpace
      match p.lineBreak? with
      | some (c, behind) => quotedBreaks (read ++ [c]) behind fuel
      | none => .ok (read, p)

/-- The white space at a place inside quotes, lines folded. -/
def quotedGap (p : Place) : Except Fault (List Char × Place) :=
  let (spaces, p) := p.run isSpace
  match p.lineBreak? with
  | some (c, behind) => do
    let (more, p) ← quotedBreaks [] behind (behind.rest.length + 1)
    pure (folded c more, p)
  | none => if p.peek.isNone then .error .malformed else .ok (spaces, p)

/-- Reads an escape, from its backslash. One at the end of a line removes the line end. -/
def escape (p : Place) : Except Fault (List Char × Place) :=
  let p := p.step
  match p.peek with
  | none => .error .malformed
  | some c =>
    match escaped? c, escapeLength? c with
    | some e, _ => .ok ([e], p.step)
    | none, some n =>
      let p := p.step
      let digits := p.rest.take n
      if digits.length == n && digits.all (Number.isDigitOf 16) then do
        let c ← numberedChar (Number.ofDigits 16 digits)
        pure ([c], p.advance n)
      else .error .malformed
    | none, none =>
      if isBreak c then quotedBreaks [] p.passBreak (p.rest.length + 1) else .error .malformed

/-- Reads text in quotes, from behind the opening one. -/
def quotedFrom (quote : Char) (read : List Char) (p : Place) :
    (fuel : Nat) → Except Fault (List Char × Place)
  | 0 => .error .malformed
  | fuel + 1 =>
    let (word, p) := p.run fun c =>
      c != '\'' && c != '"' && c != '\\' && !isSpace c && !isBreak c
    let read := read ++ word
    match p.peek with
    | none => .error .malformed
    | some c =>
      if c == quote then
        if quote == '\'' && p.peekAt 1 == some '\'' then
          quotedFrom quote (read ++ ['\'']) (p.advance 2) fuel
        else .ok (read, p.step)
      else if c == '\\' && quote == '"' then do
        let (cs, p) ← escape p
        quotedFrom quote (read ++ cs) p fuel
      else if isSpace c || isBreak c then do
        let (gap, p) ← quotedGap p
        quotedFrom quote (read ++ gap) p fuel
      else quotedFrom quote (read ++ [c]) p.step fuel

/-- Reads text in quotes, from the opening one. -/
def quoted (p : Place) : Except Fault (List Char × Place) :=
  match p.peek with
  | some quote => quotedFrom quote [] p.step (p.rest.length + 1)
  | none => .error .malformed

/-! ### Blocks -/

/-- What happens to the line ends at the end of a block. -/
inductive Chomping where
  /-- There is one. -/
  | clip
  /-- There is none. -/
  | strip
  /-- All are kept. -/
  | keep
  deriving DecidableEq, Repr

/-- Reads a chomping indicator, if there is one. -/
def chomping? (p : Place) : Option (Chomping × Place) :=
  match p.peek with
  | some '+' => some (.keep, p.step)
  | some '-' => some (.strip, p.step)
  | _ => none

/-- Reads an indentation indicator, if there is one; it is not zero. -/
def increment (p : Place) : Except Fault (Option Nat × Place) :=
  match p.peek with
  | some c =>
    if Number.isDigit c then
      if c == '0' then .error .malformed else .ok (some (Number.digitValue c), p.step)
    else .ok (none, p)
  | none => .ok (none, p)

/-- Reads the indicators of a block, which may come in either order. -/
def indicators (p : Place) : Except Fault (Chomping × Option Nat × Place) := do
  let (chomping, width?, p) ← (match chomping? p with
    | some (c, p) => do
      let (width?, p) ← increment p
      pure (c, width?, p)
    | none => do
      let (width?, p) ← increment p
      match width?, chomping? p with
      | some _, some (c, p) => pure (c, width?, p)
      | _, _ => pure (Chomping.clip, width?, p))
  if atSpaceOrEnd p.peek then pure (chomping, width?, p) else .error .malformed

/-- The line ends before a block, the widest indentation among them, and the place behind. -/
def blockStart (breaks : List Char) (widest : Nat) (p : Place) :
    (fuel : Nat) → List Char × Nat × Place
  | 0 => (breaks, widest, p)
  | fuel + 1 =>
    if p.peek == some ' ' then
      let p := p.step
      blockStart breaks (max widest p.column) p fuel
    else match p.lineBreak? with
      | some (c, behind) => blockStart (breaks ++ [c]) widest behind fuel
      | none => (breaks, widest, p)

/-- The place behind spaces, up to a column. -/
def indentTo (column : Nat) (p : Place) : Place :=
  p.advance (min (column - p.column) (p.rest.takeWhile (· == ' ')).length)

/-- The line ends at a place in a block of the indentation `column`. -/
def blockBreaks (column : Nat) (breaks : List Char) (p : Place) :
    (fuel : Nat) → List Char × Place
  | 0 => (breaks, p)
  | fuel + 1 =>
    let p := indentTo column p
    match p.lineBreak? with
    | some (c, behind) => blockBreaks column (breaks ++ [c]) behind fuel
    | none => (breaks, p)

/-- Reads the lines of a block: its text, the last line end, the line ends behind it, and the
place after all that. -/
def blockLines (fold : Bool) (column : Nat) (read breaks : List Char) (p : Place) :
    (fuel : Nat) → List Char × List Char × List Char × Place
  | 0 => (read, [], breaks, p)
  | fuel + 1 =>
    if p.column != column || p.peek.isNone then (read, [], breaks, p)
    else
      let startsWord := !(p.peek.any isSpace)
      let (line, p) := p.run (!isBreak ·)
      let read := read ++ breaks ++ line
      let (ending, p) := match p.lineBreak? with
        | some (c, behind) => ([c], behind)
        | none => ([], p)
      let (breaks, p) := blockBreaks column [] p (p.rest.length + 1)
      if p.column == column && p.peek.isSome then
        let between :=
          if fold && ending == ['\n'] && startsWord && !(p.peek.any isSpace) then
            if breaks.isEmpty then [' '] else []
          else ending
        blockLines fold column (read ++ between) breaks p fuel
      else (read, ending, breaks, p)

/-- Reads a block, from its first indicator, inside of the indentation `indent`. -/
def block (fold : Bool) (indent : Int) (p : Place) : Except Fault (List Char × Place) := do
  let (chomping, width?, p) ← indicators p.step
  match p.toLineEnd? with
  | none => .error .malformed
  | some p =>
    let least := (max (indent + 1) 1).toNat
    let fuel := p.rest.length + 1
    let (column, breaks, p) := match width? with
      | none =>
        let (breaks, widest, p) := blockStart [] 0 p fuel
        (max least widest, breaks, p)
      | some width =>
        let column := least + width - 1
        let (breaks, p) := blockBreaks column [] p fuel
        (column, breaks, p)
    let (read, ending, behind, p) := blockLines fold column [] breaks p fuel
    let tail := match chomping with
      | .clip => ending
      | .strip => []
      | .keep => ending ++ behind
    pure (read ++ tail, p)

end AttrTemplates.Data.Yaml
