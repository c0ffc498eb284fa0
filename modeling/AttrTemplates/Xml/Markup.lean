import AttrTemplates.Number.Digits
import AttrTemplates.Text.Blank
import AttrTemplates.Xml.Cursor
import AttrTemplates.Xml.Doctype

/-!
# `AttrTemplates.Xml.Markup`: the small parts of a document

Names, character references, attribute values, comments, processing instructions and
character data. Each reader stops exactly where the part ceases to be well formed.
-/

set_option autoImplicit false

namespace AttrTemplates.Xml

/-- What reading depends on besides the text. -/
structure Dialect where
  /-- Whether prefixes and namespace declarations have a meaning. -/
  namespaces : Bool
  /-- The most elements that may lie one inside the other. -/
  depthLimit : Option Nat
  /-- Whether elements have the attributes that are declared with a value. -/
  completes : Bool
  /-- Whether a text that broke a rule is at fault although it could be read. -/
  objects : Bool

/-- Documents with namespaces. -/
def Dialect.namespaced : Dialect := ⟨true, some 256, false, true⟩

/-- Documents whose names are just names. -/
def Dialect.bare : Dialect := ⟨false, none, true, false⟩

/-- What reading depends on that was read before. -/
structure Setting where
  dialect : Dialect
  /-- Whether the document claims to need nothing but itself. -/
  standalone : Bool := false
  declarations : List Declaration := []
  /-- Whether the document type has a part that is kept elsewhere. -/
  elsewhere : Bool := false
  /-- Whether the document type referred to a parameter entity. -/
  referred : Bool := false
  /-- The entities inside whose text reading goes on. -/
  opened : List String := []

/-- The entity of a name. -/
def Setting.entity? (g : Setting) (name : String) : Option Entity :=
  Xml.entity? g.declarations false name

/-- Whether an entity without declaration is no fault: it may have one that was not read. -/
def Setting.forgives (g : Setting) : Bool := (g.elsewhere || g.referred) && !g.standalone

/-- Whether declarations to come count for nothing: where only what is declared counts, they may
depend on some that were not read. -/
def Setting.ignores (g : Setting) : Bool := g.dialect.completes && g.referred && !g.standalone

/-- The most texts that may be read one inside the other, the document included. -/
def nestingLimit : Nat := 20

/-- The entities that need no declaration. -/
def predefined? : String → Option Char
  | "amp" => some '&'
  | "lt" => some '<'
  | "gt" => some '>'
  | "quot" => some '"'
  | "apos" => some '\''
  | _ => none

/-- A text in which every line ends with a line feed. -/
def normalLineEnds : List Char → List Char
  | '\r' :: '\n' :: cs => '\n' :: normalLineEnds cs
  | '\r' :: cs => '\n' :: normalLineEnds cs
  | c :: cs => c :: normalLineEnds cs
  | [] => []

/-- Literal white space in an attribute value, a space for each line end and tab. -/
def attributeBlanks : List Char → List Char
  | '\r' :: '\n' :: cs => ' ' :: attributeBlanks cs
  | c :: cs => (if Read.isMarkupBlank c then ' ' else c) :: attributeBlanks cs
  | [] => []

namespace Read

/-- Reads a name, colons included, if one comes next. -/
def name? : Read (Option String) := do
  match ← peek with
  | some c =>
    if isNameStart c then
      let cs ← takeWhile isNameChar
      pure (some (String.ofList cs))
    else pure none
  | none => pure none

/-- Reads a name that has to come next. -/
def someName : Read String := do
  match ← name? with
  | some n => pure n
  | none => stop

/-- A name as written: a prefix, if there is one, and the part behind it. -/
structure Written where
  nsPrefix : Option String
  localName : String
  deriving DecidableEq, Repr, Inhabited

/-- The whole of a written name. -/
def Written.text (w : Written) : String :=
  match w.nsPrefix with
  | some p => p ++ ":" ++ w.localName
  | none => w.localName

/-- Reads the name of an element or attribute; `none` when there is none. With namespaces it has
at most one colon, with a name on both sides; another name is objected to and means nothing but
itself. -/
def written? (d : Dialect) : Read (Option Written) := do
  match ← name? with
  | none => pure none
  | some whole =>
    if !d.namespaces then pure (some ⟨none, whole⟩)
    else match (Text.splitAt ':' whole.toList).map String.ofList with
      | [_] => pure (some ⟨none, whole⟩)
      | parts =>
        match parts, parts.all isLocalName with
        | [first, second], true => pure (some ⟨some first, second⟩)
        | _, _ =>
          object
          pure (some ⟨none, whole⟩)

/-- Reads a reference to a character by its code, from behind its `&#`. -/
def characterReference : Read Char := do
  let base ← (do
    if (← peek) == some 'x' then
      skip 1
      pure 16
    else pure 10)
  let digits ← takeWhile (Number.isDigitOf base)
  if (← peek) != some ';' then stop
  skip 1
  let n := Number.ofDigits base digits
  let c := Char.ofNat n
  if n.isValidChar && isXmlChar c && n != 0 then pure c else stop

/-- Reads the name in a reference to an entity, from behind its `&`. -/
def entityName : Read String := do
  let n ← someName
  expect ";"
  pure n

/-- Adds text to the parts of a value read so far, which are in reverse. -/
def addText (cs : List Char) : List ValuePart → List ValuePart
  | .text s :: parts => .text (s ++ String.ofList cs) :: parts
  | parts => if cs.isEmpty then parts else .text (String.ofList cs) :: parts

/-- Reads the text of an entity, with its references to entities apart and not expanded. There
may be no `<` in it, and each `&` begins a reference. `read` are its parts so far, in reverse. -/
def replacementParts (read : List ValuePart) : (fuel : Nat) → Read (List ValuePart)
  | 0 => stop
  | fuel + 1 => do
    let plain ← takeWhile fun c => c != '<' && c != '&'
    let read := addText (attributeBlanks plain) read
    match ← peek with
    | some '&' =>
      skip 1
      if (← peek) == some '#' then
        skip 1
        let c ← characterReference
        replacementParts (addText [c] read) fuel
      else
        let n ← entityName
        replacementParts (.reference n "" :: read) fuel
    | some _ => stop
    | none => pure read.reverse

/-- The text that an entity brings into an attribute value, references in it expanded. `depth`
is how many more texts may be opened. -/
def expansion (g : Setting) : (depth : Nat) → (replacement : String) → Read (List Char)
  | 0, _ => stop
  | depth + 1, replacement => do
    match (replacementParts [] (replacement.length + 1)).all replacement.toList with
    | .error _ => stop
    | .ok (parts, _) =>
      let texts ← parts.mapM fun
        | .text s => pure s.toList
        | .reference n _ =>
          match predefined? n, g.entity? n with
          | some c, _ => pure [c]
          | none, some (.internal inner _) => expansion g depth inner
          | none, some _ => stop
          | none, none => do
            if !g.forgives then stop
            notice
            pure []
      pure texts.flatten

/-- Reads the rest of an attribute value up to its closing quote. `read` are its parts so far,
in reverse. -/
def attributeValueFrom (g : Setting) (quote : Char) (read : List ValuePart) :
    (fuel : Nat) → Read (List ValuePart)
  | 0 => stop
  | fuel + 1 => do
    let plain ← takeWhile fun c => c != quote && c != '<' && c != '&' && isXmlChar c
    let read := addText (attributeBlanks plain) read
    match ← peek with
    | some '&' =>
      skip 1
      if (← peek) == some '#' then
        skip 1
        let c ← characterReference
        attributeValueFrom g quote (addText [c] read) fuel
      else
        let n ← entityName
        match predefined? n, g.entity? n with
        | some c, _ => attributeValueFrom g quote (addText [c] read) fuel
        | none, some (.internal replacement _) =>
          let cs ← expansion g (nestingLimit - 1 - g.opened.length) replacement
          attributeValueFrom g quote (.reference n (String.ofList cs) :: read) fuel
        | none, some _ => stop
        | none, none =>
          if !g.forgives then stop
          notice
          attributeValueFrom g quote read fuel
    | some c =>
      if c = quote then
        skip 1
        pure read.reverse
      else stop
    | none => stop

/-- Reads an attribute value between its quotes. -/
def attributeValue (g : Setting) : Read (List ValuePart) := do
  match ← peek with
  | some quote =>
    if quote != '"' && quote != '\'' then stop
    skip 1
    attributeValueFrom g quote [] ((← rest).length + 1)
  | none => stop

/-- A text without the blanks at its ends. -/
def withoutBlanks (s : String) : String :=
  let cs := s.toList.dropWhile isMarkupBlank
  String.ofList (cs.reverse.dropWhile isMarkupBlank).reverse

/-- A text without the blanks that follow a blank, and whether it ends with one. -/
def withSingleBlanks (afterBlank : Bool) : List Char → List Char × Bool
  | [] => ([], afterBlank)
  | ' ' :: cs =>
    let (rest, ends) := withSingleBlanks true cs
    (if afterBlank then rest else ' ' :: rest, ends)
  | c :: cs =>
    let (rest, ends) := withSingleBlanks false cs
    (c :: rest, ends)

/-- A value without blanks at its ends and with one blank where it has several. -/
def collapsed (afterBlank : Bool) : List ValuePart → List ValuePart
  | [] => []
  | .text s :: parts =>
    let (cs, ends) := withSingleBlanks afterBlank s.toList
    let cs := if ends && parts.isEmpty then cs.take (cs.length - 1) else cs
    .text (String.ofList cs) :: collapsed ends parts
  | .reference n s :: parts => .reference n s :: collapsed false parts

/-- Whether a text has a character that is neither of ASCII nor part of a line end. -/
def hasWide : List Char → Bool
  | '\r' :: '\n' :: cs => hasWide cs
  | c :: cs => c == '\r' || c.toNat > 0x7F || hasWide cs
  | [] => false

/-- Reads the rest of a comment, from behind its `<!--`. Two hyphens only stand at its end. They
are a fault in front of them, or behind them once there was a `wide` character. -/
def commentFrom (wide : Bool) (read : List Char) : (fuel : Nat) → Read (List Char)
  | 0 => stop
  | fuel + 1 => do
    let plain ← takeWhile fun c => c != '-' && isXmlChar c
    let read := read ++ plain
    let wide := wide || hasWide plain
    if ← looksAt "-->" then
      skip 3
      pure read
    else if ← looksAt "--" then
      if wide then skip 2
      stop
    else if (← peek) == some '-' then
      skip 1
      commentFrom wide (read ++ ['-']) fuel
    else stop

/-- Reads the text of a comment. -/
def commentText : Read String := do
  skip 4
  let cs ← commentFrom false [] ((← rest).length + 1)
  pure (String.ofList (normalLineEnds cs))

/-- Reads a comment. -/
def comment : Read Node := do
  let s ← commentText
  pure (.comment s (some (← line)))

/-- Reads the content of a processing instruction up to its `?>`. -/
def instructionFrom (read : List Char) : (fuel : Nat) → Read (List Char)
  | 0 => stop
  | fuel + 1 => do
    let plain ← takeWhile fun c => c != '?' && isXmlChar c
    let read := read ++ plain
    if ← looksAt "?>" then
      skip 2
      pure read
    else if (← peek) == some '?' then
      skip 1
      instructionFrom (read ++ ['?']) fuel
    else stop

/-- The targets of instructions that may begin with `xml`. -/
def xmlTargets : List String := ["xml-stylesheet", "xml-model"]

/-- Checks the target of an instruction, which is no spelling of `xml`. It should not begin with
one and, with namespaces, has no colon. -/
def checkTarget (d : Dialect) (target : String) : Read Unit := do
  let beginning := (target.toList.take 3).map Char.toLower
  if beginning == ['x', 'm', 'l'] && !xmlTargets.contains target then
    if target.length == 3 then stop
    notice
  if d.namespaces && target.contains ':' then object

/-- Reads the target and the text of a processing instruction. -/
def instructionText (d : Dialect) : Read (String × Option String) := do
  skip 2
  let target ← someName
  checkTarget d target
  if ← looksAt "?>" then
    skip 2
    pure (target, none)
  else
    spaced
    let cs ← instructionFrom [] ((← rest).length + 1)
    pure (target, some (String.ofList (normalLineEnds cs)))

/-- Reads a processing instruction. -/
def instruction (d : Dialect) : Read Node := do
  let (target, content) ← instructionText d
  pure (.instruction target content (some (← line)))

/-- Reads the rest of a section of literal characters, from behind its `<![CDATA[`. -/
def literalFrom (read : List Char) : (fuel : Nat) → Read (List Char)
  | 0 => stop
  | fuel + 1 => do
    let plain ← takeWhile fun c => c != ']' && isXmlChar c
    let read := read ++ plain
    if ← looksAt "]]>" then
      skip 3
      pure read
    else if (← peek) == some ']' then
      skip 1
      literalFrom (read ++ [']']) fuel
    else stop

/-- Reads a section of literal characters. -/
def literal : Read Node := do
  skip 9
  let cs ← literalFrom [] ((← rest).length + 1)
  pure (.text (String.ofList (normalLineEnds cs)))

/-- Reads character data up to the next markup or reference. The text `]]>` may not stand in
it. -/
def characters (read : List Char) : (fuel : Nat) → Read (List Char)
  | 0 => stop
  | fuel + 1 => do
    let plain ← takeWhile fun c => c != '<' && c != '&' && c != ']' && isXmlChar c
    let read := read ++ plain
    match ← peek with
    | some ']' =>
      if ← looksAt "]]>" then stop
      skip 1
      characters (read ++ [']']) fuel
    | some c => if c == '<' || c == '&' then pure read else stop
    | none => pure read

end Read

end AttrTemplates.Xml
