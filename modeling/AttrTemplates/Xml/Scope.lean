import AttrTemplates.Xml.Node

/-!
# `AttrTemplates.Xml.Scope`: the namespaces in force at a place

A `Scope` is what the elements around a place contribute to the meaning of prefixes, nearest
element first. An element contributes its declarations. The binding of its own name counts as
well: a tree that was put together from parts can have names whose declarations are gone.

* `Scope.uri?` is what declarations say about a prefix, `Scope.binding?` also asks the names;
* `Scope.inherited?` finds a binding that what is put at the place can use for a URI;
* `Scope.bindingFor?` finds one that a name of the nearest element can use;
* `newBinding` makes one that is still free.
-/

set_option autoImplicit false

namespace AttrTemplates.Xml

/-- What one element contributes: its declarations and the binding of its own name. -/
structure Frame where
  declarations : List Binding
  own : Option Binding
  deriving DecidableEq, Repr, Inhabited

/-- The frames around a place, nearest first. -/
abbrev Scope := List Frame

/-- What an element contributes to the scope of its children. -/
def Tag.frame (t : Tag) : Frame := ⟨t.declarations, t.name.binding⟩

/-- All bindings of a frame. -/
def Frame.bindings (f : Frame) : List Binding := f.declarations ++ f.own.toList

/-- The URI that declarations give a prefix. -/
def declared? (declarations : List Binding) (nsPrefix : Option String) : Option String :=
  (declarations.find? fun b => b.nsPrefix == nsPrefix).map (·.uri)

/-- The URI that the declarations around a place give a prefix. -/
def Scope.uri? (scope : Scope) (nsPrefix : Option String) : Option String :=
  scope.findSome? fun f => declared? f.declarations nsPrefix

/-- The binding of a prefix for a name of the nearest element: that name itself gives none. -/
def Scope.binding? (scope : Scope) (nsPrefix : Option String) : Option Binding :=
  let fits (b : Binding) : Bool := b.nsPrefix == nsPrefix
  match scope with
  | [] => none
  | f :: outer => f.declarations.find? fits <|> outer.findSome? fun g => g.bindings.find? fits

/-- Every declared prefix with its URI, nearest declarations first. -/
def Scope.bindings (scope : Scope) : List Binding :=
  scope.foldl (fun seen f =>
    seen ++ f.declarations.filter fun b => !seen.any fun s => s.nsPrefix == b.nsPrefix) []

/-- The first binding for a URI in frames, none of whose prefixes a nearer frame declares anew. -/
def bindingBehind? (uri : String) (hidden : List (Option String)) : Scope → Option Binding
  | [] => none
  | f :: outer =>
    match f.bindings.find? fun b => b.uri == uri && !hidden.contains b.nsPrefix with
    | some b => some b
    | none => bindingBehind? uri (hidden ++ f.declarations.map (·.nsPrefix)) outer

/-- A binding for a URI that a part put at this place can use instead of a declaration of its
own. The nearest element offers its declarations, those around it also their names. -/
def Scope.inherited? (scope : Scope) (uri : String) : Option Binding :=
  match scope with
  | [] => none
  | f :: outer => bindingBehind? uri [] (⟨f.declarations, none⟩ :: outer)

/-- A binding for a URI that a name of the nearest element can use, the first one that means the
URI there. The namespace of an attribute needs a prefix. -/
def Scope.bindingFor? (scope : Scope) (uri : String) (needsPrefix : Bool) : Option Binding :=
  if uri == xmlNamespace then some Binding.xml
  else
    -- A binding that something nearer hides would mean something else there.
    let fits (b : Binding) : Bool :=
      b.uri == uri && !(needsPrefix && b.nsPrefix.isNone) && scope.binding? b.nsPrefix == some b
    match scope with
    | [] => none
    | f :: outer => f.declarations.find? fits <|> outer.findSome? fun g => g.bindings.find? fits

/-! ### New bindings -/

/-- The number of prefixes made up so far in a document. -/
abbrev Prefixes := Nat

/-- The prefixes that well-known namespaces get when one has to be chosen. -/
def usualPrefixes : List (String × String) := [
  ("http://www.w3.org/1999/xhtml", "html"),
  ("http://www.w3.org/1999/XSL/Transform", "xsl"),
  ("http://www.w3.org/1999/02/22-rdf-syntax-ns#", "rdf"),
  ("http://schemas.xmlsoap.org/wsdl/", "wsdl"),
  ("http://www.w3.org/2001/XMLSchema", "xs"),
  ("http://www.w3.org/2001/XMLSchema-instance", "xsi"),
  ("http://purl.org/dc/elements/1.1/", "dc")]

/-- A prefix that means nothing yet in the scope: the one given, or else one that is made up. -/
def freshPrefix (scope : Scope) : (fuel : Nat) → String → Prefixes → String × Prefixes
  | 0, p, made => (p, made)
  | fuel + 1, p, made =>
    if (scope.binding? (some p)).isNone then (p, made)
    else freshPrefix scope fuel ("ns" ++ toString made) (made + 1)

/-- The number of bindings in a scope. -/
def Scope.size (scope : Scope) : Nat := (scope.flatMap Frame.bindings).length

/-- A new binding for a URI: under the prefix wished for, or the usual one of the namespace,
when that is free, and under a made-up one otherwise. -/
def newBinding (scope : Scope) (wished : Option String) (uri : String) (made : Prefixes) :
    Binding × Prefixes :=
  let (first, made) := match wished <|> usualPrefixes.lookup uri with
    | some p => (p, made)
    | none => ("ns" ++ toString made, made + 1)
  let (p, made) := freshPrefix scope (scope.size + 1) first made
  (⟨some p, uri⟩, made)

/-! ### Declarations without use -/

mutual

/-- Whether a name at or below a node relies on a declaration made above it. -/
def Node.reliesOn (b : Binding) : Node → Bool
  | .element tag children =>
    if tag.declarations.contains b then false
    else tag.name.binding == some b || tag.attributes.any (fun a => a.name.binding == some b)
      || anyReliesOn b children
  | _ => false

/-- Whether a name in a list of nodes relies on a declaration made above it. -/
def anyReliesOn (b : Binding) : List Node → Bool
  | [] => false
  | n :: ns => n.reliesOn b || anyReliesOn b ns

end

mutual

/-- A node without the declarations that nothing relies on. -/
def Node.withoutUnused : Node → Node
  | .element tag children =>
    let used (b : Binding) : Bool :=
      tag.name.binding == some b || tag.attributes.any (fun a => a.name.binding == some b)
        || anyReliesOn b children
    .element { tag with declarations := tag.declarations.filter used } (withoutUnusedList children)
  | n => n

/-- Nodes without the declarations that nothing relies on. -/
def withoutUnusedList : List Node → List Node
  | [] => []
  | n :: ns => n.withoutUnused :: withoutUnusedList ns

end

end AttrTemplates.Xml
