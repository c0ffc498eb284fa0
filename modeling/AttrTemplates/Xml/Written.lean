import AttrTemplates.Xml.Xhtml

/-!
# `AttrTemplates.Xml.Written`: whole documents as text

A document is written with its declaration, which names the charset, its document type, and what
stands around its root. HTML has no declaration. Characters that the charset lacks appear as
references by their code.
-/

set_option autoImplicit false

namespace AttrTemplates.Xml

open Text (Charset)

/-- The root of a document as XML, or as XHTML when the document is of that type. -/
def Document.rootToXml (charsetName : String) (d : Document) : String :=
  if d.doctype.any Doctype.isXhtml then
    if d.outer.isEmpty then rootToXhtml charsetName d.writtenRoot
    else Node.toXhtml charsetName false d.writtenRoot
  else d.writtenRoot.toXml

/-- A document as XML that declares its charset under the name given. -/
def Document.toXml (charset : Charset) (charsetName : String) (d : Document) : String :=
  "<?xml version='" ++ d.version ++ "' encoding='" ++ charsetName ++ "'?>\n"
    ++ inCharset charset (nodesToXml d.opening ++ (d.ownDoctype.map Doctype.toXml).getD ""
      ++ nodesToXml d.heading ++ d.rootToXml charsetName ++ nodesToXml d.tail
      ++ nodesToXml d.closing)

/-- A document as HTML. What stands around the root is written as in XML. -/
def Document.toHtml (charset : Charset) (d : Document) : String :=
  inCharset charset (nodesToXml d.opening ++ (d.ownDoctype.map Doctype.toXml).getD ""
    ++ nodesToXml d.heading ++ d.writtenRoot.toHtml false ++ nodesToHtml false d.tail
    ++ nodesToXml d.closing)

end AttrTemplates.Xml
