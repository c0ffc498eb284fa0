import AttrTemplates.Template.Splice
import AttrTemplates.Value.Shown
import AttrTemplates.Xml.Source

/-!
# `AttrTemplates.Template.Fragment`: values as markup

A value can be inserted as markup. An element stands for a copy of itself, with the text behind
it; a list or tuple for its members in turn; any other value for the content that its text is
when read as XML, in which no entities are declared.
-/

set_option autoImplicit false

namespace AttrTemplates

open Xml

/-- The document that has a text as the content of its root. -/
def wrapped (content : String) : String := "<fragment>" ++ content ++ "</fragment>"

/-- The items of a text read as content. -/
def fragmentOfText (content : String) : Except Failure (List Item) :=
  match (Source.text (wrapped content)).read .namespaced with
  | .ok d =>
    match d.root with
    | .element _ children => .ok (itemsOfContent (.other d.version) [] children)
    -- The root is the element put around the content, so this does not happen.
    | _ => .error .malformedStructure
  | .error _ => .error .malformedStructure

mutual

/-- The items that a value inserts as markup. -/
def fragment : Value → Except Failure (List Item)
  | .node n =>
    match n.node.element? with
    | some e => .ok [.node e.standalone.toNode n.tail (.other n.document.version) []]
    | none => fragmentOfText (Value.text (.node n))
  | .list items => fragmentAll items
  | .tuple items => fragmentAll items
  | .parts _ items => fragmentParts items
  | v => do fragmentOfText (← v.written)

/-- The items that the named places of a tuple insert. -/
def fragmentParts : List (String × Value) → Except Failure (List Item)
  | [] => .ok []
  | (_, v) :: vs => do
    let here ← fragment v
    let rest ← fragmentParts vs
    pure (here ++ rest)

/-- The items that values insert one after the other. -/
def fragmentAll : List Value → Except Failure (List Item)
  | [] => .ok []
  | v :: vs => do
    let here ← fragment v
    let rest ← fragmentAll vs
    pure (here ++ rest)

end

end AttrTemplates
