import AttrTemplates.Template.Basic
import AttrTemplates.Xml.Written

/-!
# `AttrTemplates.Template.Output`: rendering documents

An `Output` is a format with the name of the charset to write in. What it gives is the text that
the written bytes stand for; characters that the charset lacks appear in it as references.
-/

set_option autoImplicit false

namespace AttrTemplates

open Xml

/-- The formats that documents are written in. -/
inductive Format where
  | xml
  | html
  deriving DecidableEq, Repr, Inhabited

/-- A format and the name of a charset. -/
structure Output where
  format : Format
  charset : String
  deriving DecidableEq, Repr, Inhabited

/-- What outputs of a format are called. -/
def Format.label : Format → String
  | xml => "XMLOutput"
  | html => "HTMLOutput"

/-- An output in UTF-8. -/
def Format.output (f : Format) : Output := ⟨f, "utf-8"⟩

/-- A document as text. Its root has to be an element, and the charset a known one with a name
that documents may hold. -/
def Output.render (o : Output) (d : Document) : Except Failure String :=
  match d.root with
  | .element .. =>
    if o.charset.toLower == "unicode" then
      .error (match o.format with
        | .xml => .declarationInText
        | .html => .alreadyText)
    else do
      checkText o.charset
      match Text.Charset.ofDocumentName? o.charset with
      | none => throw (.unknownCharset o.charset)
      | some charset =>
        pure (match o.format with
          | .xml => d.toXml charset o.charset
          | .html => d.toHtml charset)
  | _ => .error .notAnElement

/-- Fills a template with data and renders it: the text, or why there is none, and what was
noted. -/
def Output.fill (o : Output) (t : Template) (data : Value) : Except Failure String × List Event :=
  let (result, events) := t.process data
  (result.bind o.render, events)

end AttrTemplates
