import AttrTemplates.Xml.Writer

/-!
# `AttrTemplates.Xml.Html`: nodes as HTML text

HTML has no declaration and no empty-element tags: void elements such as `br` have a start tag
alone, nearly all others have an end tag. The content of `script` and `style` is written as it
is, attributes such as `checked` are written without value, and links keep their value as a URI:
what a URI may not hold is written by its bytes. Names are compared without regard to case.

The value of an attribute stands between the quotes that it does not hold itself.
-/

set_option autoImplicit false

namespace AttrTemplates.Xml

/-- The elements without content and end tag. -/
def voidElements : List String := [
  "area", "base", "basefont", "br", "col", "frame", "hr", "img", "input", "isindex", "link",
  "meta", "param"]

/-- The elements whose end tag may be left out when there is nothing inside. -/
def openElements : List String := ["li"]

/-- The elements whose text is not escaped. -/
def rawElements : List String := ["script", "style"]

/-- The attributes that are written without value. -/
def booleanAttributes : List String := [
  "checked", "compact", "declare", "defer", "disabled", "ismap", "multiple", "nohref",
  "noresize", "noshade", "nowrap", "readonly", "selected"]

/-- The attributes that hold a link, on whatever element they are. -/
def linkAttributes : List String := ["href", "action", "src"]

/-- A text in lower case, as names are compared in HTML. -/
def asciiLower (s : String) : String := s.map Char.toLower

/-- Whether a name is one of some names, whatever namespace it lies in. -/
def Name.isNamed (n : Name) (names : List String) : Bool := names.contains (asciiLower n.localName)

/-- Whether a tag is that of an HTML element with one of the names: one without namespace. -/
def Tag.isHtml (t : Tag) (names : List String) : Bool :=
  t.name.binding.isNone && t.name.isNamed names

/-- The characters besides letters and digits that stand for themselves in a link. -/
def linkPunctuation : List Char := "-_.!~*'()\"#$%&+,/:;<=>?@[\\]^`\x7b|\x7d".toList

/-- A character of a link. -/
def escapedInLink (c : Char) : String :=
  if c.isAlphanum || linkPunctuation.contains c then String.singleton c
  else String.join ((Text.utf8Bytes (String.singleton c)).map fun b =>
    "%" ++ String.ofList [(Nat.digitChar (b.toNat / 16)).toUpper, (Nat.digitChar (b.toNat % 16)).toUpper])

/-- Whether the attribute of a tag holds a link. -/
def Tag.isLink (t : Tag) (a : Attribute) : Bool :=
  t.name.binding.isNone && a.name.binding.isNone
    && (a.name.isNamed linkAttributes || (a.name.isNamed ["name"] && t.name.isNamed ["a"]))

/-- Whether a character is a blank that a link does not begin with. -/
def isLinkBlank (c : Char) : Bool := c == ' ' || c == '\t' || c == '\n' || c == '\r'

/-- A text between quotes: double ones unless it holds some. One that holds both kinds has its
double quotes escaped. -/
def inFittingQuotes (s : String) : String :=
  if !s.contains '"' then "\"" ++ s ++ "\""
  else if !s.contains '\'' then "'" ++ s ++ "'"
  else "\"" ++ s.replace "\"" "&quot;" ++ "\""

/-- An attribute inside an HTML start tag. -/
def Attribute.toHtml (t : Tag) (a : Attribute) : String :=
  if a.name.isNamed booleanAttributes then " " ++ a.name.written
  else
    let value := String.join (a.parts.map (ValuePart.escapeWith escapedInText))
    let value := if t.isLink a then
        Xml.escapeWith escapedInLink (String.ofList (value.toList.dropWhile isLinkBlank))
      else value
    " " ++ a.name.written ++ "=" ++ inFittingQuotes value

/-- An HTML start tag. -/
def Tag.toHtml (t : Tag) : String :=
  "<" ++ t.name.written ++ String.join (t.declarations.map Binding.toXml)
    ++ String.join (t.attributes.map (Attribute.toHtml t)) ++ ">"

mutual

/-- A node as HTML; `raw` tells that it lies in an element whose text is not escaped. -/
def Node.toHtml (raw : Bool) : Node → String
  | .element tag children =>
    if tag.isHtml voidElements then tag.toHtml
    else if children.isEmpty && tag.isHtml openElements then tag.toHtml
    else tag.toHtml ++ nodesToHtml (tag.name.isNamed rawElements) children
      ++ "</" ++ tag.name.written ++ ">"
  | .comment s _ => "<!--" ++ s ++ "-->"
  | .instruction target none _ => "<?" ++ target ++ ">"
  | .instruction target (some s) _ => "<?" ++ target ++ " " ++ s ++ ">"
  | .reference n => "&" ++ n ++ ";"
  | .text s => if raw then s else escapeWith escapedInText s

/-- Nodes as HTML, one after the other. -/
def nodesToHtml (raw : Bool) : List Node → String
  | [] => ""
  | n :: ns => n.toHtml raw ++ nodesToHtml raw ns

end

end AttrTemplates.Xml
