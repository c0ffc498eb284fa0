import AttrTemplates.Template.Directives

/-!
# `AttrTemplates.Template.Basic`: templates

A template is a source with the languages its directives are in and the evaluator of their
expressions. Filling it with data processes its root. The root may be replaced, but only by one
element: other elements or text that is not white space make no document.

`processAt` processes an element anywhere in a document, with the items that stand in its place
put into its parent.
-/

set_option autoImplicit false

namespace AttrTemplates

open Xml

/-- A template. -/
structure Template where
  source : Option Source
  languages : List Language
  evaluator : Expr.Evaluator

/-- A template in the standard language. -/
def Template.ofSource (source : Option Source) : Template :=
  ⟨source, [.standard], .standard⟩

/-- What a language is called, with its namespace. -/
def Language.description (l : Language) : String := "<" ++ l.label ++ " " ++ l.uri ++ ">"

/-- The way to process an element in a template. -/
def Template.walk (t : Template) : Walk := processNode t.languages t.evaluator maxNesting

/-- The document of the source. -/
def Template.parse (t : Template) : Except Failure Document :=
  match t.source with
  | none => .error .noSource
  | some source => do
    checkSource source
    match source.declared.read .namespaced with
    | .ok d => pure d
    | .error p => .error (.malformedSource p.line p.column)

/-- The nodes among items, those of the element itself included. -/
def nodeItems (self : Element) (items : List Item) : List Item :=
  (items.map (Item.resolve self)).filter fun item => match item with
    | .node .. => true
    | _ => false

/-- The text among items. -/
def textItems : List Item → List Char
  | [] => []
  | .text s :: items => s.toList ++ textItems items
  | _ :: items => textItems items

/-- The document whose root is a node of some origin. A node of the document itself leaves the
document type where it is, and what stands before it. -/
def Origin.document (d : Document) (n : Node) (tail : List Node) (outer : Scope) :
    Origin → Document
  | .here => { d with heading := [], root := n, tail, outer, closing := [] }
  | .copy => Document.ofNode d.version n tail outer
  | .other version => Document.ofNode version n tail outer

/-- The document that items make when they stand for the root: there has to be one node, and no
text but white space. -/
def rootFrom (d : Document) (root left : Element) (items : List Item) : Except Failure Document :=
  let nodes := nodeItems left items
  match nodes, (Text.trim (textItems items)).isEmpty with
  | [.node n tail origin outer], true => .ok (origin.document d n tail outer)
  | _, _ => .error (.rootReplaced root.tag.name.written nodes.length root.tag.line)

/-- A document with its root processed. -/
def Template.processDocument (t : Template) (d : Document) : Run Document := do
  match d.root.element? with
  | none => pure d
  | some root =>
    match ← t.walk ⟨root, [], []⟩ with
    | .stays e _ => pure { d with root := e.toNode }
    | .becomes left items => (rootFrom d root left items : Except Failure Document)
    | .opens left =>
      (rootFrom d root left (Reply.items (.opens left)) : Except Failure Document)

/-- Runs processing with a global context: the outcome, the global context afterwards and the
notes. -/
def Run.outcome {α : Type} (r : Run α) (globals : Entries) :
    Except Failure α × Entries × List Event :=
  let (a, s) := r.run.run ⟨globals, [], 0, false⟩
  (a, s.globals, s.events)

/-- Fills a template with data, which have to be a mapping or nothing: the document, or why there
is none, and what was noted. -/
def Template.process (t : Template) (data : Value) : Except Failure Document × List Event :=
  match (do
    let d ← t.parse
    pure (d, ← data.entriesIfAny)) with
  | .error f => (.error f, [])
  | .ok (d, globals) =>
    let (result, _, events) := (t.processDocument d).outcome globals
    (result, events)

/-! ### Elements inside a document -/

/-- What processing a node inside a document leads to: the document element afterwards, and the
items that stand where the node was, with the text that now follows each. -/
structure Placed where
  root : Element
  items : List Item

/-- Processes the node that is found by going down child numbers from an element. Without
parent, its items are put nowhere. -/
def processAt (walk : Walk) (locals : Entries) (e : Element) (scope : Scope) :
    List Nat → Run (Option Placed)
  | [] => do
    match ← walk ⟨e, scope, locals⟩ with
    | .stays e _ => pure (some ⟨e, [.itself]⟩)
    | .becomes left items => pure (some ⟨left, items⟩)
    | .opens left =>
      pure (some ⟨{ left with children := withoutLeadingText left.children },
        Reply.items (.opens left)⟩)
  | i :: path =>
    match childAt? e.children i with
    | none => pure none
    | some hole =>
      let inner := e.tag.frame :: scope
      let fill (nodes : List Node) : Element :=
        { e with children := hole.before ++ nodes ++ hole.after }
      match path, hole.node.element? with
      | [], some child => do
        let reply ← walk ⟨child, inner, locals⟩
        let nodes ← reply.place inner
        let items := match reply with
          | .stays .. => [.itself]
          | .becomes _ items => settled false (hole.after.takeWhile Node.isText) items
          | .opens left =>
            settled false (hole.after.takeWhile Node.isText) (Reply.items (.opens left))
        pure (some ⟨fill nodes, items⟩)
      | [], none => pure (some ⟨e, [.itself]⟩)
      | path, some child => do
        match ← processAt walk locals child inner path with
        | some placed => pure (some { placed with root := fill [placed.root.toNode] })
        | none => pure none
      | _, none => pure none

end AttrTemplates
