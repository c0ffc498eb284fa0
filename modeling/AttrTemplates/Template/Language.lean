import AttrTemplates.Expr.Evaluator
import AttrTemplates.Xml.Move

/-!
# `AttrTemplates.Template.Language`: what a directive language is

A language governs one namespace. Its directives are attributes in that namespace, and its
`tags` are the names of those it knows, in the order in which they are handled on an element.
A handler is given the element with its surroundings and answers with a `Reply`: the element
stays, changed or not, or other things stand in its place.

Handlers may process other elements themselves; the way to do so is handed to them.
-/

set_option autoImplicit false

namespace AttrTemplates

/-- What changes while a template is processed: the global context, the notes, the number of
prefixes made up in the document, and whether that document is a copy made on the way. -/
structure RunState where
  globals : Entries
  events : List Event
  made : Xml.Prefixes
  inCopy : Bool
  deriving Inhabited

/-- A step of processing. What has changed before a failure stays changed. -/
abbrev Run := ExceptT Failure (StateM RunState)

/-- An evaluation as a step of processing: it can only add notes. -/
def Run.ofTraced {α : Type} (t : Traced α) : Run α := fun s =>
  let (a, events) := t.run.run s.events
  (a, { s with events })

/-- Notes an event. -/
def Run.note (e : Event) : Run Unit := Run.ofTraced (AttrTemplates.note e)

/-- An element that is being processed, with the namespaces in force around it and the local
context, which is its own. -/
structure Site where
  element : Xml.Element
  scope : Xml.Scope
  locals : Entries
  deriving Inhabited

/-- The namespaces in force on the element. -/
def Site.innerScope (s : Site) : Xml.Scope := s.element.tag.frame :: s.scope

/-- The document that a node belongs to before it is put in its place. -/
inductive Origin where
  /-- The document that is being processed. -/
  | here
  /-- A copy of a part of it. -/
  | copy
  /-- Another document of some XML version. -/
  | other (version : String)
  deriving DecidableEq, Repr, Inhabited

/-- One of the things that stand where an element was. -/
inductive Item where
  | text (s : String)
  /-- A node with the text behind it, the document it comes from, and the namespaces around it
  there. -/
  | node (n : Xml.Node) (tail : List Xml.Node) (origin : Origin) (outer : Xml.Scope)
  /-- The element itself. -/
  | itself
  deriving Inhabited

/-- The outcome of handling an element. -/
inductive Reply where
  /-- The element stays, with a local context for what follows. -/
  | stays (e : Xml.Element) (locals : Entries)
  /-- Items stand in its place; `left` is what the element has become. -/
  | becomes (left : Xml.Element) (items : List Item)
  /-- What is inside the element stands in its place. -/
  | opens (left : Xml.Element)
  deriving Inhabited

/-- Processes an element and all below it. -/
abbrev Walk := Site → Run Reply

/-- A directive language. -/
structure Language where
  uri : String
  tags : List String
  /-- What languages of its kind are called. -/
  label : String
  /-- Handles one of its directives, given the raw attribute value. -/
  handle : Expr.Evaluator → Walk → (tag raw : String) → Site → Run Reply

end AttrTemplates
