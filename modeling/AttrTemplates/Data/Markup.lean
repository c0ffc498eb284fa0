import AttrTemplates.Data.Scan
import AttrTemplates.Value.Basic
import AttrTemplates.Xml.Source

/-!
# `AttrTemplates.Data.Markup`: XML documents as data

A document is a mapping with its root as the only entry. An element is a mapping of its
attributes, whose keys begin with `@`, its child elements, and its text under `#text`; the
children of one name make a list. An element that has only text is that text, and one that has
nothing at all is undefined. White space around the text does not count, nor do comments and
instructions. Names are taken as they are written, prefix and all.

Documents that declare entities are not read, and mappings and lists nest only so deep. Text that comes from bytes in an encoding of two bytes
a character still has its zeros, and is read as what it was.
-/

set_option autoImplicit false

namespace AttrTemplates.Data.Markup

open Xml
open Text (ByteOrder Charset)

/-- Adds a value under a name: beside what is there already, in a list. -/
def addUnder (name : String) (v : Value) (entries : Entries) : Entries :=
  match Entries.get? entries name with
  | none => Entries.bind entries name v
  | some (.list items) => Entries.bind entries name (.list (items ++ [v]))
  | some first => Entries.bind entries name (.list [first, v])

/-- The attributes of a tag as entries. -/
def attributeEntries (tag : Tag) : Entries :=
  tag.attributes.map fun a => (.str ("@" ++ a.name.localName), .str a.value)

/-- The text among nodes, without the white space around it. -/
def ownText (ns : List Node) : String :=
  String.ofList (Text.trim (joinTexts ns).toList)

/-- An element as a value, given the entries of its attributes and children, and its text. -/
def elementValue (entries : Entries) (text : String) : Value :=
  match entries, text.isEmpty with
  | [], true => .undefined
  | [], false => .str text
  | entries, true => .map entries
  | entries, false => .map (addUnder "#text" (.str text) entries)

mutual

/-- Adds a node to entries, if it is an element. -/
def addNode (entries : Entries) : Node → Entries
  | .element tag children =>
    let inner := addNodes (attributeEntries tag) children
    addUnder tag.name.localName (elementValue inner (ownText children)) entries
  | _ => entries

/-- Adds the elements among nodes to entries. -/
def addNodes (entries : Entries) : List Node → Entries
  | [] => entries
  | n :: ns => addNodes (addNode entries n) ns

end

/-- Whether a document type declares an entity. -/
def declaresEntity (t : Doctype) : Bool := t.declarations.any Declaration.isEntity

/-- The text that a text stands for: a zero at its beginning means that its bytes are meant two by
two. -/
def unpaired (s : String) : Except Fault String :=
  let paired (order : ByteOrder) (bytes : List UInt8) : Except Fault String :=
    match (Charset.utf16 (some order)).decodeStrict bytes with
    | (cs, true) => .ok (String.ofList cs)
    | (_, false) => .error .malformed
  match Text.utf8Bytes s with
  | 0 :: bytes => paired .big (0 :: bytes)
  | b :: 0 :: bytes => paired .little (b :: 0 :: bytes)
  | _ => .ok s

/-- The deepest nesting of mappings and lists that is read. -/
def maxDepth : Nat := 490

mutual

/-- How many mappings and lists lie inside one another in a value. -/
def depth : Value → Nat
  | .list items => depthOfItems items + 1
  | .map entries => depthOfEntries entries + 1
  | _ => 0

/-- The largest depth of items. -/
def depthOfItems : List Value → Nat
  | [] => 0
  | v :: vs => max (depth v) (depthOfItems vs)

/-- The largest depth of the values of entries. -/
def depthOfEntries : List (Value × Value) → Nat
  | [] => 0
  | (_, v) :: es => max (depth v) (depthOfEntries es)

end

/-- Reads a text of XML. -/
def read (s : String) : Except Fault Value := do
  match (Source.text (← unpaired s)).read .bare with
  | .ok d =>
    if d.doctype.any declaresEntity then throw .malformed
    let v := Value.map (addNode [] d.root)
    if depth v > maxDepth then throw (.failure .nestingTooDeep)
    pure v
  | .error _ => throw .malformed

end AttrTemplates.Data.Markup
