import AttrTemplates.Xml.Html

/-!
# `AttrTemplates.Xml.Xhtml`: nodes as XHTML text

A document whose type is one of XHTML is XML that readers of HTML should be able to read, too.
Empty elements are written as one tag only if they are void in HTML, and then with a blank before
the slash; all others have an end tag. The root gets the namespace, the head tells the charset
first, an attribute such as `checked` has its name as value, and what has two spellings (`name`
and `id`, `lang` and `xml:lang`) is written in both.
-/

set_option autoImplicit false

namespace AttrTemplates.Xml

/-- The namespace of XHTML. -/
def xhtmlNamespace : String := "http://www.w3.org/1999/xhtml"

/-- The kinds of XHTML documents, as their public and system identifiers name them. -/
def xhtmlKinds : List (String × String) := [
  ("Strict", "strict"), ("Frameset", "frameset"), ("Transitional", "transitional")]

/-- Whether a document type is one of XHTML. -/
def Doctype.isXhtml (t : Doctype) : Bool :=
  xhtmlKinds.any fun (p, s) =>
    t.publicId == some ("-//W3C//DTD XHTML 1.0 " ++ p ++ "//EN")
      || t.systemId == some ("http://www.w3.org/TR/xhtml1/DTD/xhtml1-" ++ s ++ ".dtd")

/-- The elements that are written as one tag when they are empty. -/
def xhtmlVoidElements : List String := voidElements.filter (· != "basefont")

/-- The elements whose `name` is also their `id`. -/
def namedElements : List String := [
  "a", "p", "div", "img", "map", "applet", "form", "frame", "iframe"]

/-- Whether a tag is that of a void element. -/
def Tag.isXhtmlVoid (t : Tag) : Bool :=
  (t.name.binding.isNone || t.name.binding == some ⟨none, xhtmlNamespace⟩)
    && xhtmlVoidElements.contains t.name.localName

/-- An attribute inside an XHTML start tag. -/
def Attribute.toXhtml (a : Attribute) : String :=
  if a.name.binding.isNone && a.name.isNamed booleanAttributes && a.value.isEmpty then
    Attribute.toXml ⟨a.name, a.name.localName, []⟩
  else a.toXml

/-- The attribute of a tag that has a name, given with its prefix. -/
def Tag.written? (t : Tag) (name : String) : Option Attribute :=
  t.attributes.find? fun a => a.name.written == name

/-- What is written of an attribute once more under another name, when the tag has none of that
name. -/
def Tag.again (t : Tag) (name other : String) : String :=
  match t.written? name, t.written? other with
  | some a, none => Attribute.toXml { a with name := .plain other }
  | _, _ => ""

/-- An XHTML start tag without its end. -/
def Tag.toXhtml (t : Tag) : String :=
  let isRoot := t.name == .plain "html" && t.declarations.isEmpty
  "<" ++ t.name.written ++ String.join (t.declarations.map Binding.toXml)
    ++ (if isRoot then Binding.toXml ⟨none, xhtmlNamespace⟩ else "")
    ++ String.join (t.attributes.map Attribute.toXhtml)
    ++ (if namedElements.contains t.name.localName then t.again "name" "id" else "")
    ++ t.again "lang" "xml:lang" ++ t.again "xml:lang" "lang"

/-- Whether a node tells the type of the content, the charset with it. -/
def Node.tellsContentType : Node → Bool
  | .element tag _ => tag.name.localName == "meta"
    && (tag.written? "http-equiv").any fun a => asciiLower a.value == "content-type"
  | _ => false

/-- An element that tells the charset. -/
def charsetElement (charsetName : String) : String :=
  "<meta http-equiv=\"Content-Type\" content=\"text/html; charset=" ++ charsetName ++ "\" />"

mutual

/-- A node as XHTML; `inRoot` tells that it is a child of the root `html`. -/
def Node.toXhtml (charsetName : String) (inRoot : Bool) : Node → String
  | .element tag children =>
    let charset :=
      if inRoot && tag.name.localName == "head" && !children.any Node.tellsContentType then
        charsetElement charsetName
      else ""
    if children.isEmpty && charset.isEmpty && tag.isXhtmlVoid then tag.toXhtml ++ " />"
    else tag.toXhtml ++ ">" ++ charset ++ nodesToXhtml charsetName children
      ++ "</" ++ tag.name.written ++ ">"
  | n => n.toXml

/-- Nodes inside an element as XHTML, one after the other. -/
def nodesToXhtml (charsetName : String) : List Node → String
  | [] => ""
  | n :: ns => n.toXhtml charsetName false ++ nodesToXhtml charsetName ns

end

/-- The root of a document as XHTML. -/
def rootToXhtml (charsetName : String) : Node → String
  | .element tag children =>
    let isHtml := tag.name.localName == "html"
    if children.isEmpty then Node.toXhtml charsetName false (.element tag children)
    else tag.toXhtml ++ ">" ++ String.join (children.map (Node.toXhtml charsetName isHtml))
      ++ "</" ++ tag.name.written ++ ">"
  | n => n.toXml

end AttrTemplates.Xml
