import AttrTemplates.Data.Yaml.Scalar
import AttrTemplates.Text.Charset

/-!
# `AttrTemplates.Data.Yaml.Token`: the tokens of a text

Besides what is written, tokens tell where collections that are shown by indentation begin and
end. That a word is the key of a mapping is known only at the colon behind it. So while tokens
are read, each word that may still become a key is remembered with the number of its token, and
at the colon the missing tokens are put in front of it.
-/

set_option autoImplicit false

namespace AttrTemplates.Data.Yaml

/-- A token. -/
inductive Token where
  | version (major : Nat)
  | tagDirective (handle tagStart : String)
  | otherDirective
  | documentStart
  | documentEnd
  | blockSequenceStart
  | blockMappingStart
  | blockEnd
  | flowSequenceStart
  | flowSequenceEnd
  | flowMappingStart
  | flowMappingEnd
  | flowEntry
  | blockEntry
  | key
  | value
  | alias (name : String)
  | anchor (name : String)
  /-- A tag; without handle it is written out in full. -/
  | tag (handle : Option String) (suffix : String)
  | scalar (text : String) (isPlain : Bool)
  | streamEnd
  deriving DecidableEq, Repr, Inhabited

/-- A word that may still become a key: the number of its token and where it begins. At a place
where only a key can stand it has to become one. -/
structure KeyCandidate where
  level : Nat
  token : Nat
  required : Bool
  index : Nat
  line : Nat
  column : Nat
  deriving Repr

/-- The state of reading tokens. -/
structure Scanner where
  place : Place
  /-- How many brackets are open. -/
  level : Nat
  /-- The column of the innermost collection shown by indentation, `-1` outside of all. -/
  indent : Int
  /-- The columns of those around it. -/
  outer : List Int
  /-- Whether a key may stand here. -/
  keyAllowed : Bool
  candidates : List KeyCandidate
  tokens : Array Token

namespace Scanner

/-- The state before a text. -/
def start (cs : List Char) : Scanner := ⟨.start cs, 0, -1, [], true, [], #[]⟩

/-- Adds a token. -/
def emit (s : Scanner) (t : Token) : Scanner := { s with tokens := s.tokens.push t }

/-- Adds a token and passes over the characters it is written with. -/
def emitOver (s : Scanner) (t : Token) (length : Nat) : Scanner :=
  { s.emit t with place := s.place.advance length }

/-- Passes over spaces, comments and line ends. Outside of brackets a key may stand at the
beginning of a line. -/
def toToken (s : Scanner) : (fuel : Nat) → Scanner
  | 0 => s
  | fuel + 1 =>
    let p := s.place.skipRun (· == ' ')
    let p := if p.peek == some '#' then p.skipRun (!isBreak ·) else p
    match p.lineBreak? with
    | some (_, behind) =>
      toToken { s with place := behind, keyAllowed := s.keyAllowed || s.level == 0 } fuel
    | none => { s with place := p }

/-- Drops the candidates that can no longer become keys: a key stands on one line and has at
most 1024 characters. -/
def dropStale (s : Scanner) : Except Fault Scanner :=
  let fits (k : KeyCandidate) : Bool := k.line == s.place.line && s.place.index - k.index ≤ 1024
  if s.candidates.any fun k => k.required && !fits k then .error .malformed
  else .ok { s with candidates := s.candidates.filter fits }

/-- Drops the candidate among the open brackets, which must not be a required key. -/
def dropCandidate (s : Scanner) : Except Fault Scanner :=
  if s.candidates.any fun k => k.level == s.level && k.required then .error .malformed
  else .ok { s with candidates := s.candidates.filter fun k => k.level != s.level }

/-- Remembers that the next token may become a key. -/
def addCandidate (s : Scanner) : Except Fault Scanner := do
  if !s.keyAllowed then pure s
  else
    let s ← s.dropCandidate
    let p := s.place
    let required := s.level == 0 && s.indent == p.column
    pure { s with
      candidates := ⟨s.level, s.tokens.size, required, p.index, p.line, p.column⟩ :: s.candidates }

/-- Closes the collections that are indented further than a column, given those around. -/
def unwindTo (column : Int) (s : Scanner) : List Int → Scanner
  | [] => s
  | around :: outer =>
    if s.indent > column then
      unwindTo column { s.emit .blockEnd with indent := around, outer } outer
    else s

/-- Closes the collections that are indented further than a column; inside brackets indentation
means nothing. -/
def unwind (s : Scanner) (column : Int) : Scanner :=
  if s.level == 0 then unwindTo column s s.outer else s

/-- Opens a collection at a column, unless one is open that is not indented less; tells whether
it did. -/
def addIndent (s : Scanner) (column : Nat) : Bool × Scanner :=
  if s.indent < column then (true, { s with indent := column, outer := s.indent :: s.outer })
  else (false, s)

/-! ### Words -/

/-- A character of an anchor or a tag handle. -/
def isWordChar (c : Char) : Bool := c.isAlphanum || c == '-' || c == '_'

/-- The name of an anchor or alias, from its indicator, and the place behind it. -/
def anchorName (p : Place) : Except Fault (String × Place) :=
  let (cs, p) := p.step.run isWordChar
  let ends := p.peek.all fun c => isSpace c || isBreak c || "?:,]\x7d%@`".toList.contains c
  if cs.isEmpty || !ends then .error .malformed else .ok (String.ofList cs, p)

/-- A character of the address that a tag is written with. -/
def isAddressChar (c : Char) : Bool :=
  c.isAlphanum || "-;/?:@&=+$,_.!~*'()[]%".toList.contains c

/-- The bytes that escapes at a place stand for. -/
def escapedBytes (read : List UInt8) (p : Place) : (fuel : Nat) →
    Except Fault (List UInt8 × Place)
  | 0 => .error .malformed
  | fuel + 1 =>
    if p.peek == some '%' then
      let digits := (p.rest.drop 1).take 2
      if digits.length == 2 && digits.all (Number.isDigitOf 16) then
        escapedBytes (read ++ [UInt8.ofNat (Number.ofDigits 16 digits)]) (p.advance 3) fuel
      else .error .malformed
    else .ok (read, p)

/-- The address at a place, escapes resolved. -/
def addressFrom (read : List Char) (p : Place) : (fuel : Nat) → Except Fault (List Char × Place)
  | 0 => .error .malformed
  | fuel + 1 =>
    match p.peek with
    | some '%' => do
      let (bytes, p) ← escapedBytes [] p (p.rest.length + 1)
      match Text.Charset.decodeStrict .utf8 bytes with
      | (cs, true) => addressFrom (read ++ cs) p fuel
      | (_, false) => .error .malformed
    | some c =>
      if isAddressChar c then addressFrom (read ++ [c]) p.step fuel else .ok (read, p)
    | none => .ok (read, p)

/-- The address at a place, which is not empty. -/
def address (p : Place) : Except Fault (String × Place) := do
  let (cs, behind) ← addressFrom [] p (p.rest.length + 1)
  if behind.index == p.index then .error .malformed else pure (String.ofList cs, behind)

/-- The handle of a tag: one exclamation mark, or two with a word between them. -/
def handle (p : Place) : Except Fault (String × Place) :=
  if p.peek != some '!' then .error .malformed
  else if p.peekAt 1 == some ' ' then .ok ("!", p.step)
  else
    let (cs, p) := p.step.run isWordChar
    if p.peek == some '!' then .ok (String.ofList ('!' :: cs ++ ['!']), p.step)
    else .error .malformed

/-- A tag at a place. -/
def tag (p : Place) : Except Fault (Token × Place) := do
  let next := p.peekAt 1
  let (t, p) ← (do
    if next == some '<' then
      let (suffix, p) ← address (p.advance 2)
      if p.peek != some '>' then throw .malformed
      pure (Token.tag none suffix, p.step)
    else if atGap next then pure (Token.tag none "!", p.step)
    else
      let word := p.step.rest.takeWhile fun c => c != ' ' && !isBreak c
      let (h, p) ← if word.contains '!' then handle p else pure ("!", p.step)
      let (suffix, p) ← address p
      pure (Token.tag (some h) suffix, p) : Except Fault (Token × Place))
  if atSpaceOrEnd p.peek then pure (t, p) else throw .malformed

/-- The number at a place. -/
def directiveNumber (p : Place) : Except Fault (Nat × Place) :=
  let (ds, p) := p.run Number.isDigit
  if ds.isEmpty then .error .malformed else .ok (Number.ofDigits 10 ds, p)

/-- A directive, from its percent sign. -/
def directive (p : Place) : Except Fault (Token × Place) := do
  let (name, p) := p.step.run isWordChar
  if name.isEmpty || !atSpaceOrEnd p.peek then throw .malformed
  let (t, p) ← (do
    if name == "YAML".toList then
      let (major, p) ← directiveNumber (p.skipRun (· == ' '))
      if p.peek != some '.' then throw .malformed
      let (_, p) ← directiveNumber p.step
      if !atSpaceOrEnd p.peek then throw .malformed
      pure (Token.version major, p)
    else if name == "TAG".toList then
      let (h, p) ← handle (p.skipRun (· == ' '))
      if p.peek != some ' ' then throw .malformed
      let (tagStart, p) ← address (p.skipRun (· == ' '))
      if !atSpaceOrEnd p.peek then throw .malformed
      pure (Token.tagDirective h tagStart, p)
    else pure (Token.otherDirective, p.skipRun (!isBreak ·)) : Except Fault (Token × Place))
  match p.toLineEnd? with
  | some p => pure (t, p)
  | none => throw .malformed

/-! ### Tokens -/

/-- Ends all collections shown by indentation, before a token that stands outside of them. -/
def toOutermost (s : Scanner) : Except Fault Scanner := do
  let s ← (s.unwind (-1)).dropCandidate
  pure { s with keyAllowed := false }

/-- Reads an opening bracket, which may begin a key. -/
def openBracket (s : Scanner) (t : Token) : Except Fault Scanner := do
  let s ← s.addCandidate
  pure { s.emitOver t 1 with level := s.level + 1, keyAllowed := true }

/-- Reads a closing bracket. -/
def closeBracket (s : Scanner) (t : Token) : Except Fault Scanner := do
  let s ← s.dropCandidate
  if s.level == 0 then throw .malformed
  pure { s.emitOver t 1 with level := s.level - 1, keyAllowed := false }

/-- Begins an entry of a collection shown by indentation, which may be its first. -/
def beginEntry (s : Scanner) (opening : Token) : Except Fault Scanner :=
  if s.level != 0 then .ok s
  else if !s.keyAllowed then .error .malformed
  else match s.addIndent s.place.column with
    | (true, s) => .ok (s.emit opening)
    | (false, s) => .ok s

/-- Reads the dash before an item. -/
def blockEntry (s : Scanner) : Except Fault Scanner := do
  let s ← s.beginEntry .blockSequenceStart
  let s ← { s with keyAllowed := true }.dropCandidate
  pure (s.emitOver .blockEntry 1)

/-- Reads the question mark before a key. -/
def explicitKey (s : Scanner) : Except Fault Scanner := do
  let s ← s.beginEntry .blockMappingStart
  let s ← { s with keyAllowed := s.level == 0 }.dropCandidate
  pure (s.emitOver .key 1)

/-- Puts a token before others. -/
def insert (s : Scanner) (position : Nat) (t : Token) : Scanner :=
  { s with tokens := (s.tokens.extract 0 position).push t ++ s.tokens.extract position }

/-- Reads the colon before a value. If there is a candidate it becomes the key, perhaps the first
of a mapping. -/
def colon (s : Scanner) : Except Fault Scanner := do
  match s.candidates.find? (·.level == s.level) with
  | some k =>
    let s := { s with candidates := s.candidates.filter fun k => k.level != s.level }
    let s := s.insert k.token .key
    let s :=
      if s.level != 0 then s
      else match s.addIndent k.column with
        | (true, s) => s.insert k.token .blockMappingStart
        | (false, s) => s
    pure ({ s with keyAllowed := false }.emitOver .value 1)
  | none =>
    let s ← s.beginEntry .blockMappingStart
    let s ← { s with keyAllowed := s.level == 0 }.dropCandidate
    pure (s.emitOver .value 1)

/-- Reads a word, which may become a key, and which no key may follow. -/
def word (s : Scanner) (read : Place → Except Fault (Token × Place)) : Except Fault Scanner := do
  let s ← s.addCandidate
  let (t, p) ← read s.place
  pure { s.emit t with place := p, keyAllowed := false }

/-- Reads a plain text. A key may follow it if it ends at the beginning of a line. -/
def plainWord (s : Scanner) : Except Fault Scanner := do
  let s ← s.addCandidate
  let (cs, p, atStart) := plain (s.level != 0) (s.indent + 1) s.place
  pure { s.emit (.scalar (String.ofList cs) true) with place := p, keyAllowed := atStart }

/-- Reads a block of text. -/
def blockText (s : Scanner) (fold : Bool) : Except Fault Scanner := do
  let s ← { s with keyAllowed := true }.dropCandidate
  let (cs, p) ← block fold s.indent s.place
  pure { s.emit (.scalar (String.ofList cs) false) with place := p }

/-- Reads text in quotes. -/
def quotedText (p : Place) : Except Fault (Token × Place) := do
  let (cs, p) ← quoted p
  pure (.scalar (String.ofList cs) false, p)

/-- A character that no plain text begins with. -/
def isIndicator (c : Char) : Bool := "-?:,[]\x7b\x7d#&*!|>'\"%@`".toList.contains c

/-- Whether a plain text begins here. A dash may begin one that goes on without a gap, and
outside of brackets a question mark or colon. -/
def plainNext (s : Scanner) (c : Char) : Bool :=
  if isIndicator c then
    !atGap (s.place.peekAt 1) && (c == '-' || (s.level == 0 && (c == '?' || c == ':')))
  else !isSpace c && !isBreak c

/-- Reads the token that begins with a character. -/
def tokenAt (s : Scanner) (c : Char) : Except Fault Scanner := do
  let p := s.place
  let gapBehind := atGap (p.peekAt 1)
  if c == '%' && p.column == 0 then
    let s ← s.toOutermost
    let (t, p) ← directive s.place
    pure { s.emit t with place := p }
  else if c == '-' && p.column == 0 && p.atDocumentMark then
    pure ((← s.toOutermost).emitOver .documentStart 3)
  else if c == '.' && p.column == 0 && p.atDocumentMark then
    pure ((← s.toOutermost).emitOver .documentEnd 3)
  else if c == '[' then s.openBracket .flowSequenceStart
  else if c == '{' then s.openBracket .flowMappingStart
  else if c == ']' then s.closeBracket .flowSequenceEnd
  else if c == '}' then s.closeBracket .flowMappingEnd
  else if c == ',' then
    let s ← { s with keyAllowed := true }.dropCandidate
    pure (s.emitOver .flowEntry 1)
  else if c == '-' && gapBehind then s.blockEntry
  else if c == '?' && (s.level != 0 || gapBehind) then s.explicitKey
  else if c == ':' && (s.level != 0 || gapBehind) then s.colon
  else if c == '*' then s.word fun p => do
    let (name, p) ← anchorName p
    pure (.alias name, p)
  else if c == '&' then s.word fun p => do
    let (name, p) ← anchorName p
    pure (.anchor name, p)
  else if c == '!' then s.word tag
  else if c == '|' && s.level == 0 then s.blockText false
  else if c == '>' && s.level == 0 then s.blockText true
  else if c == '\'' || c == '"' then s.word quotedText
  else if s.plainNext c then s.plainWord
  else throw .malformed

/-- Reads all tokens up to the end of the text. -/
def tokensFrom (s : Scanner) : (fuel : Nat) → Except Fault (List Token)
  | 0 => .error .malformed
  | fuel + 1 => do
    let s := s.toToken (s.place.rest.length + 1)
    let s ← s.dropStale
    let s := s.unwind s.place.column
    match s.place.peek with
    | none => pure ((← s.toOutermost).emit .streamEnd).tokens.toList
    | some c => tokensFrom (← s.tokenAt c) fuel

end Scanner

/-- The tokens of a text. -/
def tokens (cs : List Char) : Except Fault (List Token) :=
  (Scanner.start cs).tokensFrom (cs.length + 1)

end AttrTemplates.Data.Yaml
