import AttrTemplates.Template.Directives

/-!
# `AttrTemplates.Template.Edits`: a language of single edits

A second language, for use beside the standard one: each of its directives makes one edit. Its
namespace and the directives it knows, in their order, are chosen by its user, and it keeps a
record of every directive it handles.
-/

set_option autoImplicit false

namespace AttrTemplates

open Xml

/-- A directive of the language of edits. -/
inductive Edit where
  /-- Binds a name in the local context. -/
  | bindLocal
  /-- Binds a name in the global context. -/
  | bindGlobal
  /-- Removes a name from the local context. -/
  | unbind
  /-- Removes an attribute. -/
  | strip
  /-- Adds markup at the end of the content. -/
  | append
  /-- Shows a value as the text in front of the content. -/
  | showValue
  /-- Asks for an element behind this one; as the element itself comes first, it just stays. -/
  | after
  /-- Puts an element before this one. -/
  | before
  /-- Removes the element. -/
  | drop
  /-- Puts another element in place of this one. -/
  | swap
  /-- Puts two elements with texts before them in place of this one. -/
  | split
  /-- Puts a text in place of the element. -/
  | text
  /-- Reports a problem. -/
  | fail
  deriving DecidableEq, Repr

namespace Edit

/-- The attribute name of an edit. -/
def tag : Edit → String
  | bindLocal => "set"
  | bindGlobal => "global"
  | unbind => "unset"
  | strip => "strip"
  | append => "append"
  | showValue => "show"
  | after => "after"
  | before => "before"
  | drop => "drop"
  | swap => "swap"
  | split => "split"
  | text => "text"
  | fail => "fail"

/-- All edits. -/
def all : List Edit :=
  [bindLocal, bindGlobal, unbind, strip, append, showValue, after, before, drop, swap, split,
    text, fail]

/-- The edit of an attribute name. -/
def ofTag? (name : String) : Option Edit := all.find? fun e => e.tag == name

end Edit

/-- A new element of a name given in the form `{uri}local`. -/
def newElement (name : String) : Except Failure Element := do
  checkText name
  let (uri?, localName) := splitClark name
  if localName.isEmpty then .error .emptyTagName
  else if !isLocalName localName then .error (.invalidTagName localName)
  else match uri?.filter (!·.isEmpty) with
    | none => .ok (.new (.plain localName))
    | some uri =>
      let (b, _) := newBinding [] none uri 0
      .ok { tag := ⟨⟨some b, localName⟩, [], [b], none⟩, children := [] }

/-- The first word of a text and what follows the space behind it. -/
def twoWords (s : String) : Except Failure (String × String) :=
  match s.toList.span (· != ' ') with
  | (word, _ :: rest) => .ok (String.ofList word, String.ofList rest)
  | (_, []) => .error .missingWord

/-- The key of an attribute to remove; it has a local part. -/
def checkedKey (key : String) : Except Failure String :=
  if (splitClark key).2.isEmpty then .error .emptyTagName else .ok key

/-- An element as an item that comes from nowhere. -/
def Element.asItem (e : Element) : Item := .node e.toNode [] (.other "1.0") []

/-- Makes an edit. -/
def Edit.handle (ev : Expr.Evaluator) (raw : String) (site : Site) : Edit → Run Reply
  | .bindLocal => do
    let (name, expression) ← (twoWords raw : Except Failure (String × String))
    let v ← evaluateIn ev site.locals expression
    pure (.stays site.element (site.locals.bind name v))
  | .bindGlobal => do
    let (name, expression) ← (twoWords raw : Except Failure (String × String))
    let v ← evaluateIn ev site.locals expression
    modify fun s => { s with globals := Entries.bind s.globals name v }
    pure (.stays site.element site.locals)
  | .unbind => pure (.stays site.element (site.locals.erase raw))
  | .strip => do
    let key ← (checkedKey raw : Except Failure String)
    let e := site.element
    pure (.stays { e with tag := e.tag.withoutAttribute key } site.locals)
  | .append => do
    let items ← (fragment (.str raw) : Except Failure (List Item))
    let added ← settleAll site.innerScope site.element items
    let e := site.element
    pure (.stays { e with children := e.children ++ added } site.locals)
  | .showValue => do
    let v ← evaluateIn ev site.locals raw
    let s ← (v.written : Except Failure String)
    (checkText s : Except Failure Unit)
    let e := site.element
    pure (.stays { e with children := .text s :: withoutLeadingText e.children } site.locals)
  | .after => do
    let _ ← (newElement raw : Except Failure Element)
    pure (.stays site.element site.locals)
  | .before => do
    let e ← (newElement raw : Except Failure Element)
    pure (.becomes site.element [Element.asItem e, .itself])
  | .drop => pure (.becomes site.element [])
  | .swap => do
    let e ← (newElement raw : Except Failure Element)
    pure (.becomes site.element [Element.asItem e])
  | .split => do
    let a := Element.new (.plain "a")
    let b := Element.new (.plain "b")
    pure (.becomes site.element
      [.text "text-", Element.asItem a, .text "-between-", Element.asItem b])
  | .text => pure (.becomes site.element [.text raw])
  | .fail => throw (.template raw (site.element.tag.line.map Int.ofNat) none)

/-- The language of edits in a namespace, with the directives it knows and the number under
which it keeps its records. -/
def Language.edits (uri : String) (tags : List String) (number : Nat) : Language where
  uri := uri
  tags := tags
  label := "Plugin"
  handle ev _ tag raw site :=
    match Edit.ofTag? tag with
    | some e => do
      Run.note (.recorded number tag site.element.tag.name.written raw)
      e.handle ev raw site
    | none => throw (.missingKey tag)

/-- The language of edits as it is when nothing is chosen. -/
def Language.usualEdits (number : Nat) : Language :=
  Language.edits "urn:t" ["set", "global", "drop", "swap", "split", "show"] number

end AttrTemplates
