import AttrTemplates.Xml.Scope

/-!
# `AttrTemplates.Xml.Move`: copying trees and moving them

A name carries the binding it was written under, but only a declaration around it keeps that
binding alive. Two operations see to it when a tree changes its place:

* `Element.standalone` copies an element out of its document. The declarations it used from
  around it come along, those it did not use stay behind.
* `Node.adoptInto` moves a node into a scope. Declarations for namespaces that the scope has a
  prefix for are dropped, and the names that relied on them take that prefix. A name whose
  declaration did not come along takes a binding that is in force for its namespace, and gets a
  new declaration on the moved node when there is none.

A node that is taken out of its document is moved, too: into the empty scope.
-/

set_option autoImplicit false

namespace AttrTemplates.Xml

/-! ### Copies -/

/-- The binding that a name has in a copy, and the declarations that the root of the copy got so
far. `inner` are the frames around the name inside the copy, without those declarations: a
prefix keeps what it means there, and one that means nothing is declared on the root. -/
def copiedBinding (inner : Scope) (added : List Binding) :
    Option Binding → Option Binding × List Binding
  | none => (none, added)
  | some b =>
    if b == Binding.xml then (some b, added)
    else match inner.binding? b.nsPrefix <|> added.find? (fun a => a.nsPrefix == b.nsPrefix) with
      | some found => (some found, added)
      | none => (some b, added ++ [b])

/-- The attributes of a copy. In a copy references to entities stand for nothing. -/
def copiedAttributes (inner : Scope) (added : List Binding) :
    List Attribute → List Attribute × List Binding
  | [] => ([], added)
  | a :: rest =>
    let (binding, added) := copiedBinding inner added a.name.binding
    let (rest, added) := copiedAttributes inner added rest
    ({ a.unexpanded with name := { a.name with binding } } :: rest, added)

mutual

/-- A node inside a copy. A copied comment or instruction stands on no line. -/
def Node.copied (inner : Scope) (added : List Binding) : Node → Node × List Binding
  | .element tag children =>
    let (binding, added) :=
      copiedBinding (⟨tag.declarations, none⟩ :: inner) added tag.name.binding
    -- From here on the name of the element counts as well.
    let frame : Frame := ⟨tag.declarations, binding⟩
    let (attributes, added) := copiedAttributes (frame :: inner) added tag.attributes
    let (children, added) := copiedList (frame :: inner) added children
    let name := { tag.name with binding }
    (.element { tag with name, attributes } children, added)
  | .comment s _ => (.comment s none, added)
  | .instruction target s _ => (.instruction target s none, added)
  | n => (n, added)

/-- The nodes of a list inside a copy. -/
def copiedList (inner : Scope) (added : List Binding) : List Node → List Node × List Binding
  | [] => ([], added)
  | n :: ns =>
    let (n, added) := n.copied inner added
    let (ns, added) := copiedList inner added ns
    (n :: ns, added)

end

/-- A copy of an element in a document of its own, where it means the same. -/
def Element.standalone (e : Element) : Element :=
  match e.toNode.copied [] [] with
  | (.element tag children, added) =>
    ⟨{ tag with declarations := tag.declarations ++ added }, children⟩
  | _ => e

mutual

/-- A node in whose attributes references to entities stand for their text. -/
def Node.withExpansions : Node → Node
  | .element tag children =>
    .element { tag with attributes := tag.attributes.map Attribute.expanded }
      (withExpansionsList children)
  | n => n

/-- Nodes in whose attributes references to entities stand for their text. -/
def withExpansionsList : List Node → List Node
  | [] => []
  | n :: ns => n.withExpansions :: withExpansionsList ns

end

/-! ### Moves -/

/-- The bindings that the declarations of one element had, each with the one that is in force in
its stead after the move. -/
abbrev Renaming := List (Binding × Binding)

/-- The renaming of declarations that come into a scope. -/
def renamingIn (scope : Scope) (declarations : List Binding) : Renaming :=
  declarations.map fun b => (b, (scope.inherited? b.uri).getD b)

/-- The declarations that remain of those of an element: the ones that nothing stands in for. -/
def remaining (scope : Scope) (declarations : List Binding) : List Binding :=
  declarations.filter fun b => (scope.inherited? b.uri).isNone

/-- A move under way. -/
structure Move where
  /-- The scope that the moved node comes into. -/
  around : Scope
  /-- The declarations that the moved node has now. -/
  declarations : List Binding
  /-- The number of prefixes made up. -/
  made : Prefixes

/-- The scope of the moved node, whose own name has a binding already or not yet. -/
def Move.scope (m : Move) (own : Option Binding) : Scope := ⟨m.declarations, own⟩ :: m.around

/-- The binding of a name after the move. `inner` are the renamings of the elements around the
name inside the moved tree, nearest first. A name that none of them knows, and an attribute that
would lose its prefix, looks for a binding on the moved node. -/
def Move.rebind (m : Move) (inner : List Renaming) (needsPrefix : Bool) :
    Option Binding → Option Binding × Move
  | none => (none, m)
  | some b =>
    if b == Binding.xml then (some b, m)
    -- A name inside follows the declaration that it used, unless it is an attribute and the
    -- stand-in has no prefix.
    else match (inner.findSome? fun r => r.lookup b).filter
        (fun n => !(needsPrefix && n.nsPrefix.isNone)) with
      | some renamed => (some renamed, m)
      | none =>
        match (m.scope none).bindingFor? b.uri needsPrefix with
        | some found => (some found, m)
        | none =>
          let (fresh, made) := newBinding (m.scope none) b.nsPrefix b.uri m.made
          (some fresh, { m with declarations := m.declarations ++ [fresh], made })

/-- The attributes of an element after the move. -/
def Move.rebindAttributes (m : Move) (inner : List Renaming) :
    List Attribute → List Attribute × Move
  | [] => ([], m)
  | a :: rest =>
    let (binding, m) := m.rebind inner true a.name.binding
    let (rest, m) := m.rebindAttributes inner rest
    ({ a with name := { a.name with binding } } :: rest, m)

mutual

/-- A node inside the moved tree after the move. `own` is the binding of the moved node's name,
`between` are the frames between it and this node. -/
def Node.moved (own : Option Binding) (between : Scope) (inner : List Renaming) (m : Move) :
    Node → Node × Move
  | .element tag children =>
    let scope := between ++ m.scope own
    -- A declaration goes if something around means the same, even under another prefix.
    let declarations := remaining scope tag.declarations
    let inner := renamingIn scope tag.declarations :: inner
    let (binding, m) := m.rebind inner false tag.name.binding
    let (attributes, m) := m.rebindAttributes inner tag.attributes
    let name := { tag.name with binding }
    let (children, m) := movedList own (⟨declarations, binding⟩ :: between) inner m children
    (.element { tag with name, attributes, declarations } children, m)
  | n => (n, m)

/-- The nodes of a list inside the moved tree after the move. -/
def movedList (own : Option Binding) (between : Scope) (inner : List Renaming) (m : Move) :
    List Node → List Node × Move
  | [] => ([], m)
  | n :: ns =>
    let (n, m) := n.moved own between inner m
    let (ns, m) := movedList own between inner m ns
    (n :: ns, m)

end

/-- A node as it is after a move into the scope `around`, and the number of prefixes made up. -/
def Node.adoptInto (around : Scope) (made : Prefixes) : Node → Node × Prefixes
  | .element tag children =>
    let m : Move := ⟨around, remaining around tag.declarations, made⟩
    -- What is made up on the way is declared on this element, so the move is passed along.
    let inner := [renamingIn around tag.declarations]
    let (binding, m) := m.rebind inner false tag.name.binding
    let (attributes, m) := m.rebindAttributes inner tag.attributes
    let name := { tag.name with binding }
    let (children, m) := movedList binding [] inner m children
    (.element { tag with name, attributes, declarations := m.declarations } children, m.made)
  | n => (n, made)

/-- An element as it is after it was taken out of its place. -/
def Element.takenOut (made : Prefixes) (e : Element) : Element × Prefixes :=
  match e.toNode.adoptInto [] made with
  | (.element tag children, made) => (⟨tag, children⟩, made)
  | (_, made) => (e, made)

end AttrTemplates.Xml
