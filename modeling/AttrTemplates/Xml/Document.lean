import AttrTemplates.Xml.Doctype
import AttrTemplates.Xml.Scope

/-!
# `AttrTemplates.Xml.Document`: whole documents

A document is its element with the comments and processing instructions around it and its
document type. `Document.ofNode` makes one of a node that stands for the whole: it has nothing
around it but the text that follows the node, and remembers the namespaces in force at the
place the node was taken from.
-/

set_option autoImplicit false

namespace AttrTemplates.Xml

/-- A document. -/
structure Document where
  version : String
  /-- The comments and instructions before the document type. -/
  opening : List Node
  doctype : Option Doctype
  /-- Those between the document type, or the beginning, and the root. -/
  heading : List Node
  root : Node
  /-- Text behind a root that was taken from elsewhere. -/
  tail : List Node
  /-- The namespaces in force where such a root stands. -/
  outer : Scope
  /-- The comments and instructions behind the root. -/
  closing : List Node
  deriving Repr, Inhabited

/-- A document that is nothing but a node, with the text behind it. -/
def Document.ofNode (version : String) (root : Node) (tail : List Node) (outer : Scope) :
    Document :=
  { version, opening := [], doctype := none, heading := [], root, tail, outer, closing := [] }

end AttrTemplates.Xml
