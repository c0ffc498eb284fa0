import AttrTemplates.Text.Charset
import AttrTemplates.Xml.Document

/-!
# `AttrTemplates.Xml.Writer`: nodes as XML text

What is written reads back as the same document: markup characters are escaped, and in
attributes the white space that reading would turn into spaces. An element without any node
inside is written as one tag, one whose content is an empty text is not. Characters that the
charset lacks are written as references by their code.

Declarations that nothing relies on are not written.
-/

set_option autoImplicit false

namespace AttrTemplates.Xml

open Text (Charset)

/-- A reference to a character by its code. -/
def codeReference (c : Char) : String := "&#" ++ toString c.toNat ++ ";"

/-- A character inside text. -/
def escapedInText : Char → String
  | '&' => "&amp;"
  | '<' => "&lt;"
  | '>' => "&gt;"
  | '\r' => "&#13;"
  | c => String.singleton c

/-- A character inside an attribute value. -/
def escapedInAttribute : Char → String
  | '&' => "&amp;"
  | '<' => "&lt;"
  | '>' => "&gt;"
  | '"' => "&quot;"
  | '\t' => "&#9;"
  | '\n' => "&#10;"
  | '\r' => "&#13;"
  | c => String.singleton c

/-- A text with each of its characters escaped. -/
def escapeWith (f : Char → String) (s : String) : String := String.join (s.toList.map f)

/-- A declaration inside a start tag. -/
def Binding.toXml (b : Binding) : String :=
  match b.nsPrefix with
  | some p => " xmlns:" ++ p ++ "=\"" ++ escapeWith escapedInAttribute b.uri ++ "\""
  | none => " xmlns=\"" ++ escapeWith escapedInAttribute b.uri ++ "\""

/-- A part of an attribute value with each character of its text escaped. -/
def ValuePart.escapeWith (f : Char → String) : ValuePart → String
  | .text s => Xml.escapeWith f s
  | .reference n _ => "&" ++ n ++ ";"

/-- An attribute with its value in quotes, each character of its text escaped. -/
def Attribute.escapeWith (f : Char → String) (a : Attribute) : String :=
  " " ++ a.name.written ++ "=\"" ++ String.join (a.parts.map (ValuePart.escapeWith f)) ++ "\""

/-- An attribute inside a start tag. -/
def Attribute.toXml (a : Attribute) : String := a.escapeWith escapedInAttribute

/-- A start tag without its end: declarations come before attributes. -/
def Tag.toXml (t : Tag) : String :=
  "<" ++ t.name.written ++ String.join (t.declarations.map Binding.toXml)
    ++ String.join (t.attributes.map Attribute.toXml)

mutual

/-- A node as XML. -/
def Node.toXml : Node → String
  | .element tag [] => tag.toXml ++ "/>"
  | .element tag (c :: cs) =>
    tag.toXml ++ ">" ++ nodesToXml (c :: cs) ++ "</" ++ tag.name.written ++ ">"
  | .comment s _ => "<!--" ++ s ++ "-->"
  | .instruction target none _ => "<?" ++ target ++ "?>"
  | .instruction target (some s) _ => "<?" ++ target ++ " " ++ s ++ "?>"
  | .reference n => "&" ++ n ++ ";"
  | .text s => escapeWith escapedInText s

/-- Nodes as XML, one after the other. -/
def nodesToXml : List Node → String
  | [] => ""
  | n :: ns => n.toXml ++ nodesToXml ns

end

/-- A document type declaration, on lines of its own. -/
def Doctype.toXml (t : Doctype) : String :=
  let systemPart (s : String) : String := if s.contains '"' then "'" ++ s ++ "'" else "\"" ++ s ++ "\""
  let ids := match t.publicId.filter (!·.isEmpty), t.systemId.filter (!·.isEmpty) with
    | some p, some s => " PUBLIC \"" ++ p ++ "\" " ++ systemPart s
    | some p, none => " PUBLIC \"" ++ p ++ "\""
    | none, some s => " SYSTEM " ++ systemPart s
    | none, none => ""
  "<!DOCTYPE " ++ t.name ++ ids ++ t.insideXml ++ ">\n"

/-- The document type of a document, if it is that of its root: the names agree. -/
def Document.ownDoctype (d : Document) : Option Doctype :=
  match d.root with
  | .element tag _ => d.doctype.filter (·.name == tag.name.localName)
  | _ => none

/-- Declarations with those of some bindings whose prefixes they leave free. -/
def withDeclared (declarations : List Binding) (more : List Binding) : List Binding :=
  more.foldl (fun ds b => if ds.any (fun d => d.nsPrefix == b.nsPrefix) then ds else ds ++ [b])
    declarations

/-- The tag of a root that stands inside other elements, as it is written alone: the bindings that
its own names use from around it are declared on it, and then all others that are in force. -/
def Tag.alone (t : Tag) (outer : Scope) : Tag :=
  let names := t.name :: t.attributes.map (·.name)
  let used := (names.filterMap (·.binding)).filter (· != Binding.xml)
  { t with declarations := withDeclared (withDeclared t.declarations used) (Scope.bindings outer) }

/-- The root of a document as it is written: declarations without use are dropped, and those in
force around a root taken from elsewhere are repeated on it. -/
def Document.writtenRoot (d : Document) : Node :=
  match d.root.withoutUnused with
  | .element tag children =>
    .element (if d.outer.isEmpty then tag else tag.alone d.outer) children
  | n => n

/-- A text in a charset: characters that the charset lacks become references. -/
def inCharset (charset : Charset) (s : String) : String :=
  String.join (s.toList.map fun c =>
    if charset.covers c then String.singleton c else codeReference c)

end AttrTemplates.Xml
