import AttrTemplates.Template.Language
import AttrTemplates.Xml.Legal

/-!
# `AttrTemplates.Template.Splice`: putting items where an element was

An element is a member of the node list of its parent, and the text behind it follows it there.
Putting items in its place therefore is concatenation: what was before the element, the items
in order, each node with its own tail, and what was behind the element.

The element is taken out first, so what was inside it is adapted twice: once when the element
leaves, and once when it comes to its new place.

* `itemsOfContent` reads content as items;
* `Reply.place` gives the nodes that stand for a processed element in its parent;
* `Reply.items` gives the items of an element that has no parent;
* `settled` tells what text follows each node once the items are in place.
-/

set_option autoImplicit false

namespace AttrTemplates

open Xml

/-- Content as items: text that is not empty, and nodes with the text behind them. -/
def itemsOfContent (origin : Origin) (outer : Scope) (ns : List Node) : List Item :=
  (match leadingText ns with
    | some s => if s.isEmpty then [] else [.text s]
    | none => [])
  ++ (withTails ns).map fun (n, tail) => .node n tail origin outer

/-- An item that no longer refers to the element it was an answer for. -/
def Item.resolve (self : Element) : Item → Item
  | .itself => .node self.toNode [] .here []
  | item => item

/-- An item of a copy, seen from the document that was copied. -/
def Item.ofCopy : Item → Item
  | .node n tail .here outer => .node n tail .copy outer
  | item => item

/-- A node in the document it comes to; those of the document's own entities that it refers to
have a text there. -/
def Origin.arrival (inCopy : Bool) (origin : Origin) (n : Node) : Node :=
  if origin = .copy ∧ inCopy = false then n.withExpansions else n

/-- Adapts an item to the namespaces of the place it comes to. Texts are checked there. -/
def Item.settle (scope : Scope) (self : Element) (item : Item) : Run (List Node) := do
  match item.resolve self with
  | .text s => do
    (checkText s : Except Failure Unit)
    pure [.text s]
  | .node n tail origin _ =>
    -- A node takes over bindings of the place, and may need prefixes that are not there.
    let s ← get
    let (n, made) := (origin.arrival s.inCopy n).adoptInto scope s.made
    set { s with made }
    pure (n :: tail)
  | .itself => pure []

/-- The nodes of items at the place they come to, in order. -/
def settleAll (scope : Scope) (self : Element) : List Item → Run (List Node)
  | [] => pure []
  | item :: items => do
    let here ← item.settle scope self
    let rest ← settleAll scope self items
    pure (here ++ rest)

/-- Takes an element out of its place. -/
def takeOut (e : Element) : Run Element := do
  let s ← get
  let (e, made) := e.takenOut s.made
  set { s with made }
  pure e

/-- Takes all out of an element that is inside it, one node after the other. -/
def emptyOut : List Node → Run Unit
  | [] => pure ()
  | n :: ns => do
    modify fun s => { s with made := (n.adoptInto [] s.made).2 }
    emptyOut ns

/-- The nodes that stand for a processed element in its parent; `scope` are the namespaces in
force there. -/
def Reply.place (scope : Scope) : Reply → Run (List Node)
  | .stays e _ => pure [e.toNode]
  | .becomes left items => do
    let left ← takeOut left
    settleAll scope left items
  | .opens left => do
    let left ← takeOut left
    settleAll scope left (itemsOfContent .here [] left.children)

/-- A reply as items, for an element that has no parent. -/
def Reply.items : Reply → List Item
  | .stays e _ => [.node e.toNode [] .here []]
  | .becomes left items => items.map (Item.resolve left)
  | .opens left => itemsOfContent .here [left.tag.frame] left.children

/-- The texts at the front of items. -/
def frontTexts : List Item → List Node
  | .text s :: items => .text s :: frontTexts items
  | _ => []

/-- Whether there is only text among items. -/
def onlyTexts : List Item → Bool
  | [] => true
  | .text _ :: items => onlyTexts items
  | _ => false

/-- Items with the text that follows each node once they stand in a parent; `tail` is the text
behind the element they replace. -/
def settled (inCopy : Bool) (tail : List Node) : List Item → List Item
  | [] => []
  | .node n own origin outer :: items =>
    let last := if onlyTexts items then tail else []
    .node (origin.arrival inCopy n) (own ++ frontTexts items ++ last) origin outer
      :: settled inCopy tail items
  | item :: items => item :: settled inCopy tail items

end AttrTemplates
