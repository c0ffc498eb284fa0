import AttrTemplates.Text.Blank
import AttrTemplates.Text.Charset
import AttrTemplates.Text.Half
import AttrTemplates.Xml.Reader

/-!
# `AttrTemplates.Xml.Source`: documents from text or bytes

Bytes say themselves how they are to be read: by a byte order mark, by the look of their first
characters, or by the encoding that their declaration names, which then holds from the end of
that name on; UTF-8 is the default, and the only encoding in which bytes that are no character
are a fault at their place.

Text needs no encoding. Text that begins with a declaration is a document in UTF-8 like any
other, so the encoding that it declares is believed.
-/

set_option autoImplicit false

namespace AttrTemplates.Xml

open Text (Charset)

/-- The source of a document. -/
inductive Source where
  | text (s : String)
  | bytes (bs : List UInt8)
  deriving Repr, Inhabited

/-- What the declaration of a document says. -/
structure Prologue where
  version : String := "1.0"
  encoding : Option String := none
  standalone : Bool := false

namespace Read

/-- Reads `="value"` behind the name of a part of the declaration. -/
def declaredValue {α : Type} (value : Read α) : Read α := do
  let _ ← blanks
  expect "="
  let _ ← blanks
  let quote ← peek
  if quote != some '"' && quote != some '\'' then stop
  skip 1
  let v ← value
  if (← peek) != quote then stop
  skip 1
  pure v

/-- Reads the number of a version, if one comes next: a digit, a dot and more digits. -/
def versionNumber? : Read (Option String) := do
  match ← rest with
  | d :: '.' :: _ =>
    if d.isDigit then
      skip 2
      let more ← takeWhile Char.isDigit
      pure (some (String.ofList (d :: '.' :: more)))
    else pure none
  | d :: _ =>
    if d.isDigit then skip 1
    pure none
  | [] => pure none

/-- Reads the name of an encoding. -/
def encodingName : Read String := do
  if !(← peek).any Char.isAlpha then stop
  let cs ← takeWhile fun c => c.isAlphanum || c == '.' || c == '_' || c == '-'
  pure (String.ofList cs)

/-- Reads a yes or no. -/
def yesOrNo : Read Bool := do
  if ← looksAt "yes" then
    skip 3
    pure true
  else
    expect "no"
    pure false

/-- Reads the declaration of a document up to the encoding it names. Only the versions that begin
with `1.` can be read. -/
def prologueStart : Read Prologue := do
  skip 5
  spaced
  expect "version"
  match ← declaredValue versionNumber? with
  | none => stop
  | some version =>
    if !version.startsWith "1." then stop
    if ← looksAt "?>" then pure { version }
    else
      spaced
      if ← looksAt "encoding" then
        skip 8
        pure { version, encoding := some (← declaredValue encodingName) }
      else pure { version }

/-- Reads a declaration as a whole. -/
def prologue : Read Prologue := do
  let x ← prologueStart
  if x.encoding.isSome && !(← looksAt "?>") then spaced
  let standalone ← (do
    if ← looksAt "standalone" then
      skip 10
      declaredValue yesOrNo
    else pure false)
  let _ ← blanks
  expect "?>"
  pure { x with standalone }

/-- Whether a declaration comes next. -/
def declarationNext : Read Bool := do
  let cs ← rest
  pure ((← looksAt "<?xml") && (cs.drop 5).head?.any isMarkupBlank)

/-- Reads a document, declaration and all. -/
def document (d : Dialect) : Read Document := do
  let x ← (do if ← declarationNext then prologue else pure {})
  documentFrom d x.version x.standalone

/-- The document that characters make up. In most dialects an objection is a fault. -/
def wholeDocument (d : Dialect) (cs : List Char) : Except Position Document := do
  let (document, findings) ← (document d).all cs
  match findings.verdict with
  | some p => if d.objects then .error p else pure document
  | none => pure document

end Read

/-- The characters of bytes in UTF-8. The noncharacter `U+FFFF`, which no document may hold,
stands where the first bytes are that are none. -/
def fromUtf8 (bs : List UInt8) : List Char :=
  match Charset.utf8.decodeStrict bs with
  | (cs, true) => cs
  | (cs, false) => cs ++ [Char.ofNat 0xFFFF]

/-- The characters of bytes that have to be converted. All of them are converted at once, so that
bytes that are no character are a fault of the place where the charset becomes known. -/
def converted (charset : Charset) (known : Position) (bs : List UInt8) :
    Except Position (List Char) :=
  match charset.decodeStrict bs with
  | (cs, true) => .ok cs
  | (_, false) => .error known

/-- The characters of a document in bytes, or the position of a declaration that names an
unknown encoding. -/
def charactersOf (bs : List UInt8) : Except Position (List Char) :=
  let converted (charset : Charset) (bs : List UInt8) := converted charset ⟨1, 1⟩ bs
  match bs with
  | 0xEF :: 0xBB :: 0xBF :: bs => .ok (fromUtf8 bs)
  | 0xFF :: 0xFE :: bs => converted (.utf16 (some .little)) bs
  | 0xFE :: 0xFF :: bs => converted (.utf16 (some .big)) bs
  | 0x3C :: 0 :: 0 :: 0 :: _ => converted (.utf32 (some .little)) bs
  | 0 :: 0 :: 0 :: 0x3C :: _ => converted (.utf32 (some .big)) bs
  | 0x3C :: 0 :: 0x3F :: 0 :: _ => converted (.utf16 (some .little)) bs
  | 0 :: 0x3C :: 0 :: 0x3F :: _ => converted (.utf16 (some .big)) bs
  | _ =>
    let plain := Cursor.start (bs.map fun b => Char.ofNat b.toNat)
    match (do if ← Read.declarationNext then Read.prologueStart else pure {} : Read Prologue) plain with
    | .ok (⟨_, some name, _⟩, after) =>
      match Charset.ofDocumentName? name with
      | some .utf8 => .ok (fromUtf8 bs)
      | some charset => do
        let headLength := bs.length - after.rest.length
        let rest ← Xml.converted charset after.position (bs.drop headLength)
        pure (plain.rest.take headLength ++ rest)
      | none => .error after.position
    | _ => .ok (fromUtf8 bs)

/-- The document of a source, or the position of its first fault. Text with a half of a character
in it is at fault as a whole, and so at its start. -/
def Source.read (d : Dialect) : Source → Except Position Document
  | .text s =>
    if s.toList.any fun c => (Text.half? c).isSome then .error ⟨1, 1⟩
    else Read.wholeDocument d (match s.toList with
      | '\uFEFF' :: cs => cs
      | cs => cs)
  | .bytes bs => do Read.wholeDocument d (← charactersOf bs)

/-- Whether a source is text that begins with a declaration, white space before it
disregarded. -/
def Source.declaresItself : Source → Bool
  | .text s => "<?xml".toList.isPrefixOf (Text.trimStart s.toList)
  | .bytes _ => false

/-- Text that begins with a declaration as the bytes it stands for; other sources as they
are. -/
def Source.declared (source : Source) : Source :=
  match source with
  | .text s => if source.declaresItself then .bytes (Text.utf8Bytes s) else source
  | .bytes _ => source

end AttrTemplates.Xml
