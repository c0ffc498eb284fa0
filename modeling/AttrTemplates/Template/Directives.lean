import AttrTemplates.Template.Argument
import AttrTemplates.Template.Fragment
import AttrTemplates.Template.Walk
import AttrTemplates.Value.Iteration

/-!
# `AttrTemplates.Template.Directives`: the standard language

The seven directives, in the order in which they are handled on an element:

* `define` binds names in the local or the global context;
* `condition` removes the element unless an expression is true;
* `repeat` puts a copy of the element in its place for every item of a sequence;
* `content` replaces what is inside the element;
* `replace` replaces the element;
* `attributes` sets attributes, and removes those whose value is undefined;
* `omit-tag` leaves what is inside the element in its place.
-/

set_option autoImplicit false

namespace AttrTemplates

open Xml

/-- A directive of the standard language. -/
inductive Directive where
  | define
  | condition
  | repetition
  | content
  | replace
  | attributes
  | omitTag
  deriving DecidableEq, Repr

namespace Directive

/-- The attribute name of a directive. -/
def tag : Directive → String
  | define => "define"
  | condition => "condition"
  | repetition => "repeat"
  | content => "content"
  | replace => "replace"
  | attributes => "attributes"
  | omitTag => "omit-tag"

/-- All directives in the order of their handling. -/
def all : List Directive := [define, condition, repetition, content, replace, attributes, omitTag]

/-- The directive of an attribute name. -/
def ofTag? (name : String) : Option Directive := all.find? fun d => d.tag == name

end Directive

/-- The value of an expression in the contexts of a site: the local one first. -/
def evaluateIn (ev : Expr.Evaluator) (locals : Entries) (expression : String) : Run Value := do
  let s ← get
  Run.ofTraced (ev.value expression [.map locals, .map s.globals])

/-- Makes definitions one after the other, each with the earlier ones in force, and gives the
local context they lead to. -/
def makeDefinitions (ev : Expr.Evaluator) (locals : Entries) : List String → Run Entries
  | [] => pure locals
  | argument :: arguments => do
    let d ← wellFormed "define" argument (Definition.parse? argument)
    let v ← evaluateIn ev locals d.expression
    if d.isGlobal then
      modify fun s => { s with globals := Entries.bind s.globals d.name v }
      makeDefinitions ev locals arguments
    else makeDefinitions ev (Entries.bind locals d.name v) arguments

/-- The directive `define`. -/
def define (ev : Expr.Evaluator) (raw : String) (site : Site) : Run Reply := do
  let locals ← makeDefinitions ev site.locals (Expr.arguments raw)
  pure (.stays site.element locals)

/-- The directive `condition`. -/
def condition (ev : Expr.Evaluator) (raw : String) (site : Site) : Run Reply := do
  let v ← evaluateIn ev site.locals raw
  pure (if v.truth then .stays site.element site.locals else .becomes site.element [])

/-- A step of processing in a copy that is a document of its own, in which no prefix has been
made up yet. -/
def inNewCopy {α : Type} (r : Run α) : Run α := do
  let before ← get
  set { before with made := 0, inCopy := true }
  let a ← r
  -- Notes and global definitions stay, the rest belongs to the document of the copy.
  modify fun s => { s with made := before.made, inCopy := before.inCopy }
  pure a

/-- The local context of one copy of a repeated element: the item under the loop's name, and the
states of all loops under `repeat`. -/
def loopContext (locals loops : Entries) (name : String) (item : Value) (state : LoopState) :
    Entries :=
  (locals.bind name item).bind "repeat" (.map (loops.bind name (.loop state)))

/-- Processes a copy for each of the items left, the first of them having the number `index`. -/
def repeatFrom (walk : Walk) (copy : Element) (locals loops : Entries) (name : String)
    (length : Nat) (index : Nat) : List Value → Run (List Item)
  | [] => pure []
  | item :: items => do
    let context := loopContext locals loops name item ⟨index, length⟩
    let reply ← inNewCopy (walk ⟨copy, [], context⟩)
    let rest ← repeatFrom walk copy locals loops name length (index + 1) items
    pure (reply.items.map Item.ofCopy ++ rest)

/-- The loops around an element, as its local context has them. -/
def enclosingLoops (locals : Entries) : Except Failure Entries :=
  (locals.get "repeat").entriesIfAny

/-- The directive `repeat`. -/
def repetition (ev : Expr.Evaluator) (walk : Walk) (raw : String) (site : Site) : Run Reply := do
  let a ← wellFormed "repeat" raw (NamedExpression.parse? isVariableChar raw)
  let v ← evaluateIn ev site.locals a.expression
  -- A value that is not true is not asked for its items.
  if !v.truth then pure (.becomes site.element [])
  else match v.items? with
    | none => throw (.notASequence a.expression v.typeName)
    | some items =>
      let loops ← (enclosingLoops site.locals : Except Failure Entries)
      let results ← repeatFrom walk site.element.standalone site.locals loops a.name
        items.length 0 items
      pure (.becomes site.element results)

/-- The directive `content`. -/
def content (ev : Expr.Evaluator) (raw : String) (site : Site) : Run Reply := do
  let a ← wellFormed "content" raw (Insertion.parse? raw)
  let v ← evaluateIn ev site.locals a.expression
  -- The old children go whatever the value is, and their going counts prefixes.
  emptyOut site.element.children
  let children ←
    if v.isUndefined then pure []
    else if a.asMarkup then do
      let items ← (fragment v : Except Failure (List Item))
      settleAll site.innerScope site.element items
    else do
      let s ← (v.written : Except Failure String)
      (checkText s : Except Failure Unit)
      pure [.text s]
  pure (.stays { site.element with children } site.locals)

/-- The directive `replace`. -/
def replace (ev : Expr.Evaluator) (raw : String) (site : Site) : Run Reply := do
  let a ← wellFormed "replace" raw (Insertion.parse? raw)
  let v ← evaluateIn ev site.locals a.expression
  if v.isUndefined then pure (.becomes site.element [])
  else if a.asMarkup then
    let items ← (fragment v : Except Failure (List Item))
    pure (.becomes site.element items)
  else
    let s ← (v.written : Except Failure String)
    pure (.becomes site.element [.text s])

/-- The namespace and local part that an attribute name in an assignment means on an element. -/
def attributeTarget (scope : Scope) (name : String) : Except Failure (Option String × String) :=
  match name.toList.span (· != ':') with
  | (_, []) => .ok (none, name)
  | (p, _ :: localName) =>
    let p := String.ofList p
    -- Only declarations give a prefix a meaning here. A name of an element does not.
    let uri? := if p == "xml" then some xmlNamespace else scope.uri? (some p)
    match uri? with
    | some uri => .ok (some uri, String.ofList localName)
    | none => .error (.unknownPrefix p)

/-- The element with an attribute set. Its name is written with a prefix in force for the
namespace, which is declared on the element if there is none. -/
def setAttribute (site : Site) (target : Option String × String) (value : String) : Run Element :=
  do
    let e := site.element
    let (uri?, localName) := target
    if localName.isEmpty then throw .emptyTagName
    if !isLocalName localName then throw (.invalidAttributeName localName)
    (checkText value : Except Failure Unit)
    match uri? with
    | none => pure { e with tag := e.tag.withAttribute (.plain localName) value }
    | some uri =>
      -- A prefix that is in force is preferred, whatever prefix the assignment names.
      match site.innerScope.bindingFor? uri true with
      | some b => pure { e with tag := e.tag.withAttribute ⟨some b, localName⟩ value }
      | none =>
        let s ← get
        let (b, made) := newBinding site.innerScope none uri s.made
        set { s with made }
        let tag := { e.tag with declarations := e.tag.declarations ++ [b] }
        pure { e with tag := tag.withAttribute ⟨some b, localName⟩ value }

/-- The element without an attribute. -/
def removeAttribute (e : Element) (target : Option String × String) : Except Failure Element :=
  let (uri?, localName) := target
  if localName.isEmpty then .error .emptyTagName
  else
    let key := match uri? with
      | some uri => attributeKey uri localName
      | none => localName
    .ok { e with tag := e.tag.withoutAttribute key }

/-- Makes assignments to attributes one after the other. -/
def assignAttributes (ev : Expr.Evaluator) (site : Site) : List String → Run Element
  | [] => pure site.element
  | argument :: arguments => do
    let a ← wellFormed "attributes" argument (NamedExpression.parse? isAttributeChar argument)
    let target ← (attributeTarget site.innerScope a.name : Except Failure (Option String × String))
    let v ← evaluateIn ev site.locals a.expression
    let e ←
      if v.isUndefined then (removeAttribute site.element target : Except Failure Element)
      else setAttribute site target (← (v.written : Except Failure String))
    assignAttributes ev { site with element := e } arguments

/-- The directive `attributes`. -/
def attributes (ev : Expr.Evaluator) (raw : String) (site : Site) : Run Reply := do
  let e ← assignAttributes ev site (Expr.arguments raw)
  pure (.stays e site.locals)

/-- The directive `omit-tag`. Without expression the tag is always omitted. Once it is, nothing
processes what is inside any more, so that happens here. -/
def omitTag (ev : Expr.Evaluator) (walk : Walk) (raw : String) (site : Site) : Run Reply := do
  let keep ←
    if (Text.trim raw.toList).isEmpty then pure false
    else do
      let v ← evaluateIn ev site.locals raw
      pure !v.truth
  if keep then pure (.stays site.element site.locals)
  else
    let children ← walkNodes walk site.innerScope site.locals site.element.children
    pure (.opens { site.element with children })

/-- The namespace of the standard language. -/
def standardUri : String := "http://xml.zope.org/namespaces/tal"

/-- Handles a directive. -/
def Directive.handle (ev : Expr.Evaluator) (walk : Walk) (raw : String) (site : Site) :
    Directive → Run Reply
  | .define => AttrTemplates.define ev raw site
  | .condition => AttrTemplates.condition ev raw site
  | .repetition => AttrTemplates.repetition ev walk raw site
  | .content => AttrTemplates.content ev raw site
  | .replace => AttrTemplates.replace ev raw site
  | .attributes => AttrTemplates.attributes ev raw site
  | .omitTag => AttrTemplates.omitTag ev walk raw site

/-- The standard language. -/
def Language.standard : Language where
  uri := standardUri
  tags := Directive.all.map Directive.tag
  label := "TALLanguage"
  handle ev walk tag raw site :=
    match Directive.ofTag? tag with
    | some d => d.handle ev walk raw site
    | none => throw (.missingKey tag)

end AttrTemplates
