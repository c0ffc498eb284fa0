import AttrTemplates.Xml.Node

/-!
# `AttrTemplates.Xml.Doctype`: document types

A document type declares entities, elements, attributes and notations. A `Declaration` says what
is declared and how it is written out again: `Declaration.toXml` has one way of writing for
everything that means the same, so that content models are groups with their occurrences and
each attribute has a declaration of its own.

* `ContentModel` is what an element may contain, `Particle.repeatedAny` and its neighbours are
  what an occurrence behind a group does to the group;
* `AttributeType` is what an attribute may hold, `AttributeType.admits` whether it may hold a
  text.
-/

set_option autoImplicit false

namespace AttrTemplates.Xml

/-! ### Content models -/

/-- How often a part of content occurs. -/
inductive Times where
  | once
  | atMostOnce
  | anyTimes
  | atLeastOnce
  deriving DecidableEq, Repr, Inhabited

/-- The sign of an occurrence. -/
def Times.toXml : Times → String
  | once => ""
  | atMostOnce => "?"
  | anyTimes => "*"
  | atLeastOnce => "+"

/-- Whether something may be left out. -/
def Times.optional : Times → Bool
  | atMostOnce => true
  | anyTimes => true
  | _ => false

/-- A part of the content of an element: a child, or a group of parts, which follow each other
or are alternatives. -/
inductive Particle where
  | child (name : String) (times : Times)
  | group (alternatives : Bool) (parts : List Particle) (times : Times)
  deriving Repr, Inhabited

/-- How often a part occurs. -/
def Particle.times : Particle → Times
  | child _ t => t
  | group _ _ t => t

/-- A part with another occurrence. -/
def Particle.occurring (t : Times) : Particle → Particle
  | child n _ => child n t
  | group a ps _ => group a ps t

/-- A part that occurs once if it could be left out. -/
def Particle.present (p : Particle) : Particle :=
  if p.times.optional then p.occurring .once else p

mutual

/-- The parts of a group of alternatives that may be left out as a whole: none of them needs to
be optional itself. A group at the end that has alternatives counts as part of the list. -/
def Particle.flattened : Particle → Particle
  | .child n t => (Particle.child n t).present
  | .group true ps t => (Particle.group true (presentParts ps) t).present
  | .group false ps t => (Particle.group false ps t).present

/-- Alternatives, each of them present, the last one all the way down. -/
def presentParts : List Particle → List Particle
  | [] => []
  | [p] => [p.flattened]
  | p :: ps => p.present :: presentParts ps

end

mutual

/-- Whether a part, or an alternative at its end, may be left out. -/
def Particle.endsOptional : Particle → Bool
  | .child _ t => t.optional
  | .group true ps t => t.optional || anyOptional ps
  | .group false _ t => t.optional

/-- Whether one of some alternatives may be left out. -/
def anyOptional : List Particle → Bool
  | [] => false
  | [p] => p.endsOptional
  | p :: ps => p.times.optional || anyOptional ps

end

/-- A group with `?` behind it. -/
def Particle.madeOptional (p : Particle) : Particle :=
  p.occurring (if p.times == .atLeastOnce || p.times == .anyTimes then .anyTimes else .atMostOnce)

/-- A group with `*` behind it. -/
def Particle.repeatedAny : Particle → Particle
  | group true ps _ => group true (presentParts ps) .anyTimes
  | p => p.occurring .anyTimes

/-- A group of `written` parts with `+` behind it. When one of its last two alternatives may be
left out, so may the group. -/
def Particle.repeated (written : Nat) : Particle → Particle
  | group true ps t =>
    let kept := if written ≤ 1 then 0 else ps.length - 2
    let last := ps.drop kept
    let anyNumber := t.optional || anyOptional last
    group true (ps.take kept ++ presentParts last) (if anyNumber then .anyTimes else .atLeastOnce)
  | p => p.occurring (if p.times.optional then .anyTimes else .atLeastOnce)

mutual

/-- A part inside a group of the kind given. A group of the same kind that occurs once needs no
parentheses. -/
def Particle.inGroup (alternatives : Bool) : Particle → String
  | .child n t => n ++ t.toXml
  | .group a ps t =>
    if a == alternatives && t == .once then inGroups a ps
    else "(" ++ inGroups a ps ++ ")" ++ t.toXml

/-- Parts with the sign between them. -/
def inGroups (alternatives : Bool) : List Particle → String
  | [] => ""
  | [p] => p.inGroup alternatives
  | p :: ps =>
    p.inGroup alternatives ++ (if alternatives then " | " else " , ") ++ inGroups alternatives ps

end

/-- A part that is the whole of a model. -/
def Particle.toXml : Particle → String
  | child n t => "(" ++ n ++ ")" ++ t.toXml
  | group a ps t => "(" ++ inGroups a ps ++ ")" ++ t.toXml

/-- What an element may contain. -/
inductive ContentModel where
  | nothing
  | anything
  /-- Text, and elements between it. -/
  | mixed (names : List String) (starred : Bool)
  | children (whole : Particle)
  deriving Repr, Inhabited

/-- A content model as it is written. -/
def ContentModel.toXml : ContentModel → String
  | nothing => "EMPTY"
  | anything => "ANY"
  | mixed names starred =>
    "(" ++ String.intercalate " | " ("#PCDATA" :: names) ++ ")" ++ (if starred then "*" else "")
  | children whole => whole.toXml

/-! ### Attributes -/

/-- What an attribute may hold. -/
inductive AttributeType where
  | text
  | id
  | idReference
  | idReferences
  | entity
  | entities
  | token
  | tokens
  | notations (names : List String)
  | oneOf (values : List String)
  deriving DecidableEq, Repr, Inhabited

/-- A type as it is written. -/
def AttributeType.toXml : AttributeType → String
  | text => "CDATA"
  | id => "ID"
  | idReference => "IDREF"
  | idReferences => "IDREFS"
  | entity => "ENTITY"
  | entities => "ENTITIES"
  | token => "NMTOKEN"
  | tokens => "NMTOKENS"
  | notations names => "NOTATION (" ++ String.intercalate " | " names ++ ")"
  | oneOf values => "(" ++ String.intercalate " | " values ++ ")"

/-- Whether a text is a name, colons included. -/
def isWholeName (s : String) : Bool :=
  match s.toList with
  | [] => false
  | c :: cs => isNameStart c && cs.all isNameChar

/-- Whether a text is made of the characters of names. -/
def isNameToken (s : String) : Bool := !s.isEmpty && s.toList.all isNameChar

/-- Whether the form of a text is right for a type. The values of an enumeration only have the
form of tokens. -/
def AttributeType.admits (s : String) : AttributeType → Bool
  | text => true
  | id | idReference | entity | notations _ => isWholeName s
  | idReferences | entities => (s.splitOn " ").all isWholeName
  | token => isNameToken s
  | tokens | oneOf _ => (s.splitOn " ").all isNameToken

/-- What a declaration says about an attribute that is not there. -/
inductive Presence where
  | required
  | implied
  /-- It has a value nevertheless, which is the only one that it may have if it is fixed. -/
  | byDefault (fixed : Bool) (value : List ValuePart)
  deriving DecidableEq, Repr, Inhabited

/-- A part of a value in a declaration. -/
def ValuePart.declared : ValuePart → String
  | .text s => s.replace "&" "&#38;"
  | .reference n _ => "&" ++ n ++ ";"

/-- A value as it stands in a declaration. -/
def declaredText (parts : List ValuePart) : String := String.join (parts.map ValuePart.declared)

/-- What is declared about an attribute of an element, both by the names as they are written. -/
structure AttributeRule where
  element : String
  name : String
  type : AttributeType
  presence : Presence
  deriving Repr, Inhabited

/-! ### Declarations -/

/-- The identifiers of something that is kept elsewhere. -/
structure ExternalId where
  publicId : Option String
  systemId : Option String
  deriving DecidableEq, Repr, Inhabited

/-- What an entity stands for. -/
inductive Entity where
  /-- A text, and the literal that it was written as. -/
  | internal (replacement written : String)
  /-- A text that is kept elsewhere. -/
  | external (ids : ExternalId)
  /-- Something in a notation, which is no text. -/
  | unparsed (ids : ExternalId) (format : String)
  deriving Repr, Inhabited

/-- One declaration of a document type, or a comment or instruction among them. -/
inductive Declaration where
  | entity (parameter : Bool) (name : String) (entity : Entity)
  | element (name : String) (model : ContentModel)
  | rule (r : AttributeRule)
  | format (name : String) (ids : ExternalId)
  | comment (content : String)
  | instruction (target : String) (content : Option String)
  deriving Repr, Inhabited

/-- A literal in the quotes that fit it. -/
def inQuotes (s : String) : String :=
  if !s.contains '"' then "\"" ++ s ++ "\""
  else if !s.contains '\'' then "'" ++ s ++ "'"
  else "\"" ++ s.replace "\"" "&quot;" ++ "\""

/-- Identifiers as they are written. -/
def ExternalId.toXml (ids : ExternalId) : String :=
  match ids.publicId, ids.systemId with
  | some p, some s => "PUBLIC " ++ inQuotes p ++ " " ++ inQuotes s
  | some p, none => "PUBLIC " ++ inQuotes p
  | none, some s => "SYSTEM " ++ inQuotes s
  | none, none => ""

/-- An entity as it is written. -/
def Entity.toXml : Entity → String
  | internal _ written => inQuotes written
  | external ids => ids.toXml
  | unparsed ids format => ids.toXml ++ " NDATA " ++ format

/-- A presence as it is written, with a blank before it. -/
def Presence.toXml : Presence → String
  | required => " #REQUIRED"
  | implied => " #IMPLIED"
  | byDefault fixed value =>
    (if fixed then " #FIXED " else " ") ++ inQuotes (declaredText value)

/-- A declaration as it is written, each on a line of its own. -/
def Declaration.toXml : Declaration → String
  | entity parameter name e =>
    "<!ENTITY " ++ (if parameter then "% " else "") ++ name ++ " " ++ e.toXml ++ ">\n"
  | element name model => "<!ELEMENT " ++ name ++ " " ++ model.toXml ++ ">\n"
  | rule r =>
    "<!ATTLIST " ++ r.element ++ " " ++ r.name ++ " " ++ r.type.toXml ++ r.presence.toXml
      ++ ">\n"
  | format name ids => "<!NOTATION " ++ name ++ " " ++ ids.toXml ++ " >\n"
  | comment s => "<!--" ++ s ++ "-->"
  | instruction target none => "<?" ++ target ++ "?>"
  | instruction target (some s) => "<?" ++ target ++ " " ++ s ++ "?>"

/-- Whether something declares nothing. -/
def Declaration.isAside : Declaration → Bool
  | comment _ => true
  | instruction .. => true
  | _ => false

/-- Whether something declares a notation. -/
def Declaration.isFormat : Declaration → Bool
  | format .. => true
  | _ => false

/-- Whether something declares an entity. -/
def Declaration.isEntity : Declaration → Bool
  | entity .. => true
  | _ => false

/-- Whether two declarations are about the same thing. Only the first one counts then. -/
def Declaration.sameAs : Declaration → Declaration → Bool
  | entity p n _, entity q m _ => p == q && n == m
  | element n _, element m _ => n == m
  | rule r, rule s => r.element == s.element && r.name == s.name
  | format n _, format m _ => n == m
  | _, _ => false

/-- The entity that is declared under a name. -/
def entity? (declarations : List Declaration) (parameter : Bool) (name : String) : Option Entity :=
  declarations.findSome? fun
    | .entity p n e => if p == parameter && n == name then some e else none
    | _ => none

/-- What is declared about the attributes of an element. -/
def rulesOf (declarations : List Declaration) (element : String) : List AttributeRule :=
  declarations.filterMap fun
    | .rule r => if r.element == element then some r else none
    | _ => none

/-- A document type declaration with its internal part. -/
structure Doctype extends ExternalId where
  name : String
  declarations : List Declaration
  deriving Repr, Inhabited

/-- The internal part as it is written: nothing when it declares nothing, and notations first. -/
def Doctype.insideXml (t : Doctype) : String :=
  if t.declarations.all Declaration.isAside then ""
  else
    let (formats, others) := t.declarations.partition Declaration.isFormat
    " [\n" ++ String.join ((formats ++ others).map Declaration.toXml) ++ "]"

end AttrTemplates.Xml
