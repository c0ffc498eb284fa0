import AttrTemplates.Xml.Name

/-!
# `AttrTemplates.Xml.Node`: document trees

A tree is made of elements, comments, processing instructions, entity references and text.
Text is a node of its own in the list of its parent, so there is one notion of position:
what follows an element in that list. Text nodes may stand side by side and may be empty;
`runs` is the view that disregards both.

* `leadingText` and `withoutLeadingText` take the text before the first other node apart;
* `childAt?` finds a child by its number, text not counted.
-/

set_option autoImplicit false

namespace AttrTemplates.Xml

/-- A part of an attribute value as it was written. -/
inductive ValuePart where
  | text (content : String)
  /-- A reference to an entity, with the text that it stands for. -/
  | reference (entity expansion : String)
  deriving DecidableEq, Repr, Inhabited

/-- The text that a part stands for. -/
def ValuePart.expanded : ValuePart → String
  | text s => s
  | reference _ s => s

/-- Whether a part is a reference. -/
def ValuePart.isReference : ValuePart → Bool
  | text _ => false
  | reference .. => true

/-- An attribute. Its value is text; one that was written with references to entities keeps the
parts it was written in. -/
structure Attribute where
  name : Name
  value : String
  /-- The parts of the value as written, when there are references among them. -/
  spelling : List ValuePart := []
  deriving DecidableEq, Repr, Inhabited

/-- An attribute whose value is written in parts. -/
def Attribute.ofParts (name : Name) (parts : List ValuePart) : Attribute :=
  { name, value := String.join (parts.map ValuePart.expanded),
    spelling := if parts.any ValuePart.isReference then parts else [] }

/-- An attribute in whose value references stand for their text. -/
def Attribute.expanded (a : Attribute) : Attribute :=
  if a.spelling.isEmpty then a
  else { a with value := String.join (a.spelling.map ValuePart.expanded) }

/-- An attribute in whose value references stand for nothing. -/
def Attribute.unexpanded (a : Attribute) : Attribute :=
  if a.spelling.isEmpty then a
  else
    let texts := a.spelling.filter fun p => !p.isReference
    { a with value := String.join (texts.map ValuePart.expanded) }

/-- The parts in which the value of an attribute is written. -/
def Attribute.parts (a : Attribute) : List ValuePart :=
  if a.spelling.isEmpty then [.text a.value] else a.spelling

/-- What stands in the start tag of an element: its name, its attributes in order, the
namespaces it declares, and the source line on which the tag ends. -/
structure Tag where
  name : Name
  attributes : List Attribute
  declarations : List Binding
  line : Option Nat
  deriving DecidableEq, Repr, Inhabited

/-- A node of a document tree. A comment or instruction that was read knows the source line on
which it ends. -/
inductive Node where
  | element (tag : Tag) (children : List Node)
  | comment (content : String) (line : Option Nat)
  | instruction (target : String) (content : Option String) (line : Option Nat)
  | reference (entity : String)
  | text (content : String)
  deriving Repr, Inhabited

/-- An element taken apart. -/
structure Element where
  tag : Tag
  children : List Node
  deriving Repr, Inhabited

/-- An element as a node. -/
def Element.toNode (e : Element) : Node := .element e.tag e.children

/-- A new element without namespace, attributes or content. -/
def Element.new (name : Name) : Element := ⟨⟨name, [], [], none⟩, []⟩

/-- The element that a node is. -/
def Node.element? : Node → Option Element
  | .element tag children => some ⟨tag, children⟩
  | _ => none

/-- Whether a node is text. -/
def Node.isText : Node → Bool
  | .text _ => true
  | _ => false

/-- The text of a text node. -/
def Node.textContent : Node → String
  | .text s => s
  | _ => ""

/-- The concatenation of texts. -/
def joinTexts (ns : List Node) : String := String.join (ns.map Node.textContent)

/-- The text before the first node that is no text; none when there is not even an empty
one. -/
def leadingText (ns : List Node) : Option String :=
  match ns.takeWhile Node.isText with
  | [] => none
  | texts => some (joinTexts texts)

/-- What remains behind the leading text. -/
def withoutLeadingText (ns : List Node) : List Node := ns.dropWhile Node.isText

/-- One child that is no text, with all that stands before and after it in its parent. -/
structure Hole where
  before : List Node
  node : Node
  after : List Node

/-- The `i`-th child, text not counted. -/
def childAt? : List Node → Nat → Option Hole
  | [], _ => none
  | n :: ns, i =>
    if n.isText then (childAt? ns i).map fun h => { h with before := n :: h.before }
    else match i with
      | 0 => some ⟨[], n, ns⟩
      | i + 1 => (childAt? ns i).map fun h => { h with before := n :: h.before }

/-- The children that are no text, each with the text that follows it. -/
def withTails : List Node → List (Node × List Node)
  | [] => []
  | n :: ns =>
    if n.isText then withTails ns else (n, ns.takeWhile Node.isText) :: withTails ns

/-- A piece of content: text that is neither empty nor next to other text, or a node. -/
inductive Piece where
  | text (content : String)
  | node (node : Node)
  deriving Repr

/-- Puts text before pieces, merging it with text they begin with. -/
def Piece.consText (s : String) : List Piece → List Piece
  | .text t :: ps => .text (s ++ t) :: ps
  | ps => if s.isEmpty then ps else .text s :: ps

/-- Content as nodes and text, with adjacent text merged and empty text dropped. -/
def runs : List Node → List Piece
  | [] => []
  | .text s :: ns => Piece.consText s (runs ns)
  | n :: ns => .node n :: runs ns

/-- The value of an attribute. -/
def Tag.attribute? (t : Tag) (key : String) : Option String :=
  (t.attributes.find? fun a => a.name.clark == key).map (·.value)

/-- A tag without the attributes of a key. -/
def Tag.withoutAttribute (t : Tag) (key : String) : Tag :=
  { t with attributes := t.attributes.filter fun a => a.name.clark != key }

/-- A tag in which an attribute has a value under the name given: in its old place when the tag
has it already, and otherwise at the end. -/
def Tag.withAttribute (t : Tag) (name : Name) (value : String) : Tag :=
  if t.attributes.any fun a => a.name.clark == name.clark then
    { t with attributes := t.attributes.map fun a =>
        if a.name.clark == name.clark then { name, value } else a }
  else { t with attributes := t.attributes ++ [{ name, value }] }

/-- Whether an element has children other than text. -/
def Element.hasChildren (e : Element) : Bool := e.children.any (!·.isText)

end AttrTemplates.Xml
