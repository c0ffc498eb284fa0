import AttrTemplates.Text.Half

/-!
# `AttrTemplates.Xml.Name`: names and the namespaces they lie in

A name is a local part and, unless it lies in no namespace, the binding of a prefix to a
namespace URI that was in force where it was written. The URI decides what the name means,
the prefix only how it is written.

`Clark` text is the form `{uri}local` in which answers and attribute keys name things.
-/

set_option autoImplicit false

namespace AttrTemplates.Xml

/-- The namespace that the prefix `xml` always stands for. -/
def xmlNamespace : String := "http://www.w3.org/XML/1998/namespace"

/-- A prefix, or none for the default namespace, and the URI it stands for. -/
structure Binding where
  nsPrefix : Option String
  uri : String
  deriving DecidableEq, Repr, Inhabited

/-- The binding of the prefix `xml`, which needs no declaration. -/
def Binding.xml : Binding := ⟨some "xml", xmlNamespace⟩

/-- The name of an element or attribute. -/
structure Name where
  binding : Option Binding
  localName : String
  deriving DecidableEq, Repr, Inhabited

/-- A name in no namespace. -/
def Name.plain (localName : String) : Name := ⟨none, localName⟩

/-- The namespace of a name. -/
def Name.uri? (n : Name) : Option String := n.binding.map (·.uri)

/-- A name as it is written, with its prefix. -/
def Name.written (n : Name) : String :=
  match n.binding.bind (·.nsPrefix) with
  | some p => p ++ ":" ++ n.localName
  | none => n.localName

/-- The form `{uri}local`, plain for a name in no namespace. -/
def Name.clark (n : Name) : String :=
  match n.uri? with
  | some uri => "\x7b" ++ uri ++ "\x7d" ++ n.localName
  | none => n.localName

/-- Splits the form `{uri}local` at its first closing brace. A text without one has no
namespace; with one, the first character is dropped whatever it is. -/
def splitClark (key : String) : Option String × String :=
  match key.toList.span (· != '\x7d') with
  | (_, []) => (none, key)
  | (ns, _ :: rest) => (some (String.ofList (ns.drop 1)), String.ofList rest)

/-- A character that can begin a name: a letter or ideograph, the underscore, the colon. -/
def isNameStart (c : Char) : Bool :=
  let n := c.toNat
  c.isAlpha || c == '_' || c == ':'
    || (0xC0 ≤ n && n ≤ 0xD6) || (0xD8 ≤ n && n ≤ 0xF6) || (0xF8 ≤ n && n ≤ 0x2FF)
    || (0x370 ≤ n && n ≤ 0x37D) || (0x37F ≤ n && n ≤ 0x1FFF) || (0x200C ≤ n && n ≤ 0x200D)
    || (0x2070 ≤ n && n ≤ 0x218F) || (0x2C00 ≤ n && n ≤ 0x2FEF) || (0x3001 ≤ n && n ≤ 0xD7FF)
    || (0xF900 ≤ n && n ≤ 0xFDCF) || (0xFDF0 ≤ n && n ≤ 0xFFFD) || (0x10000 ≤ n && n ≤ 0xEFFFF)

/-- A character that can go on a name. -/
def isNameChar (c : Char) : Bool :=
  let n := c.toNat
  isNameStart c || c.isDigit || c == '-' || c == '.' || n == 0xB7
    || (0x300 ≤ n && n ≤ 0x36F) || (0x203F ≤ n && n ≤ 0x2040)

/-- Whether a text is a name without a colon. -/
def isLocalName (s : String) : Bool :=
  match s.toList with
  | [] => false
  | c :: cs => isNameStart c && cs.all isNameChar && !(c :: cs).contains ':'

/-- A character that a document may hold. -/
def isXmlChar (c : Char) : Bool :=
  let n := c.toNat
  n == 0x9 || n == 0xA || n == 0xD || (0x20 ≤ n && n ≤ 0xFFFD)
    || (0x10000 ≤ n && (Text.half? c).isNone)

/-- Whether a document may hold all characters of a text. -/
def isLegalText (s : String) : Bool := s.toList.all isXmlChar

end AttrTemplates.Xml
