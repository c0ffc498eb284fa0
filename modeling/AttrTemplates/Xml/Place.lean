import AttrTemplates.Xml.Document

/-!
# `AttrTemplates.Xml.Place`: nodes seen in their documents

A `DocumentNode` is a node together with the document it stands in, so one can go from it to its
neighbours. Its address has two parts: which of the nodes that stand in no other it belongs to,
and the child numbers that lead down from there, text not counted.

Nothing is said of an address that leads nowhere: no operation here makes one from one that
leads somewhere.
-/

set_option autoImplicit false

namespace AttrTemplates.Xml

/-- A node in a document. -/
structure DocumentNode where
  document : Document
  /-- The number of the node at the top that holds it. -/
  top : Nat
  /-- The child numbers from there down to the node. -/
  path : List Nat
  deriving Repr, Inhabited

/-- The nodes of a document that stand in no other. -/
def Document.topNodes (d : Document) : List Node := d.opening ++ d.heading ++ d.root :: d.closing

/-- The root as a node in its document. -/
def Document.rootNode (d : Document) : DocumentNode :=
  ⟨d, d.opening.length + d.heading.length, []⟩

/-- A node that is a whole document. -/
def DocumentNode.alone (n : Node) : DocumentNode := (Document.ofNode "1.0" n [] []).rootNode

/-- What an address leads to: the node, the text behind it, and the namespaces around it. -/
structure Sight where
  node : Node
  tail : List Node
  scope : Scope
  deriving Repr, Inhabited

/-- What child numbers lead down to. -/
def Sight.descend? (s : Sight) : List Nat → Option Sight
  | [] => some s
  | i :: path =>
    match s.node with
    | .element tag children =>
      match childAt? children i with
      | some h =>
        Sight.descend? ⟨h.node, h.after.takeWhile Node.isText, tag.frame :: s.scope⟩ path
      | none => none
    | _ => none

namespace DocumentNode

/-- What the node at the top is. -/
def topSight (n : DocumentNode) : Sight :=
  if n.top = n.document.rootNode.top then ⟨n.document.root, n.document.tail, n.document.outer⟩
  else ⟨(n.document.topNodes[n.top]?).getD default, [], []⟩

/-- What the address leads to. -/
def sight (n : DocumentNode) : Sight := (n.topSight.descend? n.path).getD n.topSight

/-- The node as such. -/
def node (n : DocumentNode) : Node := n.sight.node

/-- The text behind the node. -/
def tail (n : DocumentNode) : List Node := n.sight.tail

/-- The namespaces in force around the node. -/
def scope (n : DocumentNode) : Scope := n.sight.scope

/-- The number of nodes in a node, text not counted. -/
def size (n : DocumentNode) : Nat :=
  match n.node with
  | .element _ children => (children.filter fun c => !c.isText).length
  | _ => 0

/-- The child of a number. -/
def child (n : DocumentNode) (i : Nat) : DocumentNode := { n with path := n.path ++ [i] }

/-- The nodes in a node. -/
def children (n : DocumentNode) : List DocumentNode := (List.range n.size).map n.child

/-- The element that a node stands in. -/
def parent? (n : DocumentNode) : Option DocumentNode :=
  if n.path.isEmpty then none else some { n with path := n.path.dropLast }

/-- The node that stands before or behind a node beside it, given by how the numbers of both are
related. -/
def beside? (n : DocumentNode) (other? : Nat → Option Nat) : Option DocumentNode :=
  match n.path.getLast?, n.parent? with
  | some i, some p => ((other? i).filter (· < p.size)).map p.child
  | _, _ =>
    ((other? n.top).filter (· < n.document.topNodes.length)).map fun top => { n with top }

/-- The node behind a node. -/
def next? (n : DocumentNode) : Option DocumentNode := n.beside? fun i => some (i + 1)

/-- The node before a node. -/
def previous? (n : DocumentNode) : Option DocumentNode :=
  n.beside? fun i => if i = 0 then none else some (i - 1)

/-- The elements that a node stands in, nearest first. -/
def ancestors (n : DocumentNode) : List DocumentNode :=
  ((List.range n.path.length).map fun k => { n with path := n.path.take k }).reverse

/-- The nodes behind a node, in order. -/
def following (n : DocumentNode) : (fuel : Nat) → List DocumentNode
  | 0 => []
  | fuel + 1 => match n.next? with
    | some m => m :: m.following fuel
    | none => []

/-- The number of nodes that stand where a node stands. -/
def familySize (n : DocumentNode) : Nat :=
  match n.parent? with
  | some p => p.size
  | none => n.document.topNodes.length

end DocumentNode

mutual

/-- The addresses of a node and all nodes in it, in document order, below an address. -/
def Node.addresses (path : List Nat) : Node → List (List Nat)
  | .element _ children => path :: addressesFrom path 0 children
  | .text _ => []
  | _ => [path]

/-- The addresses in a list of nodes, the next of which has the number `i`. -/
def addressesFrom (path : List Nat) (i : Nat) : List Node → List (List Nat)
  | [] => []
  | .text _ :: ns => addressesFrom path i ns
  | n :: ns => n.addresses (path ++ [i]) ++ addressesFrom path (i + 1) ns

end

/-- A node and all nodes in it, in document order. -/
def DocumentNode.within (n : DocumentNode) : List DocumentNode :=
  (n.node.addresses n.path).map fun path => { n with path }

mutual

/-- The texts in a node, in document order; those in comments and instructions do not count. -/
def Node.texts : Node → List String
  | .element _ children => textsOf children
  | .text s => [s]
  | _ => []

/-- The texts in a list of nodes, in document order. -/
def textsOf : List Node → List String
  | [] => []
  | n :: ns => n.texts ++ textsOf ns

end

end AttrTemplates.Xml
