import AttrTemplates.Xml.Markup

/-!
# `AttrTemplates.Xml.DoctypeReader`: document types from text

The declarations of a document type add up in a `Setting`, on which the reading of the document
behind them depends. Of two declarations of the same thing the first one counts.

A reference to a parameter entity stands for more declarations, each of which it holds as a
whole. Those of an entity that is kept elsewhere or has no declaration itself are not read.
-/

set_option autoImplicit false

namespace AttrTemplates.Xml.Read

/-! ### Literals -/

/-- Reads a literal between quotes, all of whose characters are allowed. -/
def literalOf (allowed : Char → Bool) : Read String := do
  match ← peek with
  | some quote =>
    if quote != '"' && quote != '\'' then stop
    skip 1
    let cs ← takeWhile fun c => c != quote && allowed c
    if (← peek) != some quote then stop
    skip 1
    pure (String.ofList cs)
  | none => stop

/-- The characters of public identifiers. -/
def isPublicIdChar (c : Char) : Bool :=
  c.isAlphanum || " \r\n-'()+,./:=?;!*#@$_%".contains c

/-- Reads the identifiers of something kept elsewhere, if they come next. A public identifier
may stand alone if no system identifier is `needed`. -/
def externalId (needed : Bool) : Read (Option ExternalId) := do
  if ← looksAt "SYSTEM" then
    skip 6
    spaced
    pure (some ⟨none, some (← literalOf isXmlChar)⟩)
  else if ← looksAt "PUBLIC" then
    skip 6
    spaced
    let publicId ← literalOf isPublicIdChar
    let apart ← blanks
    let more ← peek
    if needed && !apart then stop
    if needed || (apart && (more == some '"' || more == some '\'')) then
      pure (some ⟨some publicId, some (← literalOf isXmlChar)⟩)
    else pure (some ⟨some publicId, none⟩)
  else pure none

/-- Reads a name that should have no colon. -/
def plainName (d : Dialect) : Read String := do
  let n ← someName
  if d.namespaces && n.contains ':' then object
  pure n

/-! ### Entities -/

/-- Reads the replacement text of an entity from its literal: references to characters are
resolved, others stay. A reference to a parameter entity may not be there; one without
declaration ends the text. -/
def replacementFrom (g : Setting) (read : List Char) : (fuel : Nat) → Read (List Char × Bool)
  | 0 => stop
  | fuel + 1 => do
    let plain ← takeWhile fun c => c != '&' && c != '%' && isXmlChar c
    let read := read ++ plain
    match ← peek with
    | none => pure (read, true)
    | some '&' =>
      skip 1
      if (← peek) == some '#' then
        skip 1
        let c ← characterReference
        replacementFrom g (read ++ [c]) fuel
      else
        let n ← entityName
        replacementFrom g (read ++ '&' :: n.toList ++ [';']) fuel
    | some '%' =>
      skip 1
      let n ← entityName
      if g.standalone || (Xml.entity? g.declarations true n).isSome then stop
      pure (read, false)
    | some _ => stop

/-- Reads the literal of an entity. Its opening quote takes up no column and its characters are
as wide as their bytes. All faults in it are found in front of its closing quote. -/
def entityLiteral (g : Setting) : Read (Entity × Setting) := do
  match ← peek with
  | some quote =>
    skipUncounted
    let written := (← rest).takeWhile fun c => c != quote && c.toNat != 0
    skipBytes written.length
    if (← peek) != some quote then stop
    match (replacementFrom g [] (written.length + 1)).all written with
    | .error _ => stop
    | .ok ((replacement, whole), _) =>
      if !whole then notice
      skip 1
      pure (.internal (String.ofList replacement) (String.ofList written),
        if whole then g else { g with referred := true })
  | none => stop

/-- The reference to a character by its code, in hexadecimal digits or not. -/
def isCodeOf (c : Char) (text : String) : Bool :=
  let hexadecimal := String.ofList (Nat.toDigits 16 c.toNat) ++ ";"
  text == "&#" ++ toString c.toNat ++ ";"
    || (text.startsWith "&#x" && (text.drop 3).toString.toLower == hexadecimal)

/-- Whether an entity is what a name stands for anyway, if it stands for something without
declaration. Characters that begin markup have to be written as references. -/
def redeclares (name : String) (e : Entity) : Bool :=
  match predefined? name, e with
  | none, _ => true
  | some c, .internal replacement _ =>
    isCodeOf c replacement || (replacement == String.singleton c && c != '<' && c != '&')
  | some _, _ => false

/-- Adds a declaration. It does not count if the same thing is declared already. -/
def declare (g : Setting) (d : Declaration) : Read Setting := do
  if g.ignores then pure g
  else if g.declarations.any d.sameAs then
    match d with
    | .element .. => object
    | .rule .. => notice
    | _ => pure ()
    pure g
  else pure { g with declarations := g.declarations ++ [d] }

/-- Reads the definition of an entity. -/
def entityDefinition (g : Setting) (parameter : Bool) : Read (Entity × Setting) := do
  let next ← peek
  if next == some '"' || next == some '\'' then entityLiteral g
  else
    match ← externalId true with
    | none => stop
    | some ids =>
      if ids.systemId.any (·.contains '#') then object
      if parameter then pure (.external ids, g)
      else
        if (← peek) != some '>' then spaced
        if ← looksAt "NDATA" then
          skip 5
          spaced
          pure (.unparsed ids (← someName), g)
        else pure (.external ids, g)

/-- Reads the declaration of an entity, from behind `<!ENTITY`. -/
def entityDeclaration (g : Setting) : Read Setting := do
  spaced
  let parameter := (← peek) == some '%'
  if parameter then
    skip 1
    spaced
  let n ← plainName g.dialect
  spaced
  let (e, g) ← entityDefinition g parameter
  let _ ← blanks
  expect ">"
  if parameter || redeclares n e then declare g (.entity parameter n e)
  else
    notice
    pure g

/-! ### Elements -/

/-- Reads the sign of an occurrence. -/
def times : Read Times := do
  match ← peek with
  | some '?' =>
    skip 1
    pure .atMostOnce
  | some '*' =>
    skip 1
    pure .anyTimes
  | some '+' =>
    skip 1
    pure .atLeastOnce
  | _ => pure .once

/-- Reads the rest of the names in a model of mixed content. -/
def mixedNames (read : List String) : (fuel : Nat) → Read (List String)
  | 0 => stop
  | fuel + 1 => do
    if (← peek) == some '|' then
      skip 1
      let _ ← blanks
      let n ← someName
      let _ ← blanks
      mixedNames (read ++ [n]) fuel
    else pure read

/-- Reads a model of mixed content, from its `#PCDATA`. -/
def mixedModel : Read ContentModel := do
  skip 7
  let _ ← blanks
  if (← peek) == some ')' then
    skip 1
    let starred := (← peek) == some '*'
    if starred then skip 1
    pure (.mixed [] starred)
  else
    let names ← mixedNames [] ((← rest).length + 1)
    expect ")*"
    pure (.mixed names true)

/-- What a group of parts amounts to with an occurrence behind it. A group of one part is that
part. -/
def groupOf (alternatives : Bool) (parts : List Particle) (t : Times) : Particle :=
  let whole := match parts with
    | [p] => p
    | ps => .group alternatives ps .once
  match t with
  | .once => whole
  | .atMostOnce => whole.madeOptional
  | .anyTimes => whole.repeatedAny
  | .atLeastOnce => whole.repeated parts.length

mutual

/-- Reads a part of a content model. `depth` is the number of groups around it. -/
def particle (d : Dialect) (depth : Nat) : (fuel : Nat) → Read Particle
  | 0 => stop
  | fuel + 1 => do
    if (← peek) == some '(' then
      skip 1
      group d (depth + 1) fuel
    else
      let n ← someName
      pure (.child n (← times))

/-- Reads a group, from behind its opening parenthesis. -/
def group (d : Dialect) (depth : Nat) : (fuel : Nat) → Read Particle
  | 0 => stop
  | fuel + 1 => do
    if d.depthLimit.any (· < depth) then stop
    let _ ← blanks
    let first ← particle d depth fuel
    let (alternatives, parts) ← partsFrom d depth none [first] fuel
    skip 1
    pure (groupOf alternatives parts (← times))

/-- Reads the rest of the parts of a group, all of them with the same sign between them. -/
def partsFrom (d : Dialect) (depth : Nat) (alternatives : Option Bool) (read : List Particle) :
    (fuel : Nat) → Read (Bool × List Particle)
  | 0 => stop
  | fuel + 1 => do
    let _ ← blanks
    match ← peek with
    | some ')' => pure (alternatives == some true, read)
    | some sign =>
      if (sign != '|' && sign != ',') || alternatives.any (· != (sign == '|')) then stop
      skip 1
      let _ ← blanks
      let p ← particle d depth fuel
      partsFrom d depth (some (sign == '|')) (read ++ [p]) fuel
    | none => stop

end

/-- Reads a content model. -/
def contentModel (d : Dialect) : Read ContentModel := do
  if ← looksAt "EMPTY" then
    skip 5
    pure .nothing
  else if ← looksAt "ANY" then
    skip 3
    pure .anything
  else
    expect "("
    let _ ← blanks
    if ← looksAt "#PCDATA" then mixedModel
    else
      let whole ← group d 1 (2 * (← rest).length + 2)
      pure (.children whole)

/-- Reads the declaration of an element, from behind `<!ELEMENT`. -/
def elementDeclaration (g : Setting) : Read Setting := do
  spaced
  let n ← someName
  spaced
  let model ← contentModel g.dialect
  let _ ← blanks
  expect ">"
  declare g (.element n model)

/-! ### Attributes -/

/-- Reads the rest of an enumeration, from its parenthesis or the sign before the next item. One
that is there already is objected to. -/
def itemsFrom (item : Read String) (read : List String) : (fuel : Nat) → Read (List String)
  | 0 => stop
  | fuel + 1 => do
    skip 1
    let _ ← blanks
    let s ← item
    if read.contains s then object
    let read := if read.contains s then read else read ++ [s]
    let _ ← blanks
    if (← peek) == some '|' then itemsFrom item read fuel
    else
      expect ")"
      pure read

/-- Reads an enumeration in parentheses. -/
def enumeration (item : Read String) : Read (List String) := do
  if (← peek) != some '(' then stop
  itemsFrom item [] ((← rest).length + 1)

/-- Reads the characters of a name, of which there has to be one. -/
def nameToken : Read String := do
  let cs ← takeWhile isNameChar
  if cs.isEmpty then stop
  pure (String.ofList cs)

/-- The types that are a word, none of them in front of a longer one that it begins. -/
def typeWords : List (String × AttributeType) := [
  ("CDATA", .text), ("IDREFS", .idReferences), ("IDREF", .idReference), ("ID", .id),
  ("ENTITY", .entity), ("ENTITIES", .entities), ("NMTOKENS", .tokens), ("NMTOKEN", .token)]

/-- Reads the type of an attribute. -/
def attributeType : Read AttributeType := do
  let cs ← rest
  match typeWords.find? fun (word, _) => word.toList.isPrefixOf cs with
  | some (word, t) =>
    skip word.length
    pure t
  | none =>
    if ← looksAt "NOTATION" then
      skip 8
      spaced
      pure (.notations (← enumeration someName))
    else pure (.oneOf (← enumeration nameToken))

/-- Reads what is declared about an attribute that is not there. -/
def presence (g : Setting) (t : AttributeType) : Read Presence := do
  if ← looksAt "#REQUIRED" then
    skip 9
    pure .required
  else if ← looksAt "#IMPLIED" then
    skip 8
    pure .implied
  else
    let fixed ← looksAt "#FIXED"
    if fixed then
      skip 6
      spaced
    let parts ← attributeValue g
    pure (.byDefault fixed (if t == .text then parts else collapsed true parts))

/-- Objects to what is wrong with a rule although it can be read: an `xml:id` that is no
identifier, a value of the wrong form, a second identifier of an element. -/
def checkRule (g : Setting) (r : AttributeRule) : Read Unit := do
  if r.name == "xml:id" && r.type != .id then object
  match r.presence with
  | .byDefault _ parts => if !r.type.admits (declaredText parts) then object
  | _ => pure ()
  let others := rulesOf g.declarations r.element
  if r.type == .id && others.any (fun o => o.type == .id && o.name != r.name) then object

/-- Reads the rest of the rules about an element. -/
def rulesFrom (element : String) (g : Setting) : (fuel : Nat) → Read Setting
  | 0 => stop
  | fuel + 1 => do
    if (← peek) == some '>' then
      skip 1
      pure g
    else
      let name ← someName
      spaced
      let type ← attributeType
      spaced
      let presence ← presence g type
      if (← peek) != some '>' then spaced
      let r : AttributeRule := { element, name, type, presence }
      checkRule g r
      let g ← declare g (.rule r)
      rulesFrom element g fuel

/-- Reads the declaration of attributes, from behind `<!ATTLIST`. -/
def attributeDeclaration (g : Setting) : Read Setting := do
  spaced
  let element ← someName
  let _ ← blanks
  rulesFrom element g ((← rest).length + 1)

/-! ### The whole -/

/-- Reads the declaration of a notation, from behind `<!NOTATION`. -/
def formatDeclaration (g : Setting) : Read Setting := do
  spaced
  let n ← plainName g.dialect
  spaced
  let ids ← externalId false
  let _ ← blanks
  expect ">"
  match ids with
  | none => stop
  | some ids => declare g (.format n ids)

/-- Reads a declaration, from its `<`. The letters behind `<!` decide which word has to stand
there. -/
def markupDeclaration (g : Setting) : Read Setting := do
  match ← rest with
  | '<' :: '?' :: _ =>
    let (target, content) ← instructionText g.dialect
    declare g (.instruction target content)
  | '<' :: '!' :: '-' :: '-' :: _ => declare g (.comment (← commentText))
  | '<' :: '!' :: 'E' :: 'L' :: _ =>
    skip 2
    expect "ELEMENT"
    elementDeclaration g
  | '<' :: '!' :: 'E' :: _ =>
    skip 2
    expect "ENTITY"
    entityDeclaration g
  | '<' :: '!' :: 'A' :: _ =>
    skip 2
    expect "ATTLIST"
    attributeDeclaration g
  | '<' :: '!' :: 'N' :: _ =>
    skip 2
    expect "NOTATION"
    formatDeclaration g
  | '<' :: '!' :: '-' :: _ =>
    skip 2
    stop
  | _ => stop

/-- Reads declarations up to the `]` behind them or, inside an entity, the end of its text. -/
def declarationsFrom (g : Setting) : (fuel : Nat) → Read Setting
  | 0 => stop
  | fuel + 1 => do
    let _ ← blanks
    match ← peek with
    | none => if g.opened.isEmpty then stop else pure g
    | some ']' =>
      if !g.opened.isEmpty then stop
      skip 1
      pure g
    | some '%' =>
      skip 1
      let n ← entityName
      let g := { g with referred := true }
      match Xml.entity? g.declarations true n with
      | some (.internal text _) =>
        if g.opened.contains n || nestingLimit ≤ g.opened.length then stop
        let inside := { g with opened := n :: g.opened }
        let after ← within text.toList (declarationsFrom inside fuel)
        declarationsFrom { after with opened := g.opened } fuel
      | some _ => declarationsFrom g fuel
      | none =>
        if g.standalone && g.dialect.objects then stop
        notice
        declarationsFrom g fuel
    | some _ =>
      let g ← markupDeclaration g
      declarationsFrom g fuel

/-- Reads a document type, from its `<!DOCTYPE`. -/
def doctype (g : Setting) : Read (Doctype × Setting) := do
  skip 9
  spaced
  let name ← someName
  let _ ← blanks
  let ids ← externalId true
  let _ ← blanks
  let g := { g with elsewhere := ids.isSome }
  let inside := (← peek) == some '['
  let g ← (do
    if inside then
      skip 1
      let g ← declarationsFrom g (nestingLimit * (← rest).length + 1)
      let _ ← blanks
      pure g
    else pure g)
  expect ">"
  pure ({ ids.getD ⟨none, none⟩ with name, declarations := g.declarations }, g)

end AttrTemplates.Xml.Read
