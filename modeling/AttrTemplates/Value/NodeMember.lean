import AttrTemplates.Value.Basic

/-!
# `AttrTemplates.Value.NodeMember`: what a node of a document offers

An element tells its name, its attributes, its text and its neighbours, and gives runs over the
nodes around it. Comments, instructions and references offer the same members, most of which are
empty there. Members that cannot be used without arguments are there all the same: a path that
meets one leads nowhere.
-/

set_option autoImplicit false

namespace AttrTemplates

/-- Optional text as a value. -/
def Value.ofText? : Option String → Value
  | some s => .str s
  | none => .undefined

/-- An optional node as a value. -/
def Value.ofNode? : Option Xml.DocumentNode → Value
  | some n => .node n
  | none => .undefined

/-- An operation that needs no arguments. -/
def Value.giving (name : String) (v : Value) : Value := .operation name [] (.ok v)

/-- An operation that can be called without arguments although it has some. -/
def Value.givingAlso (name : String) (v : Value) : Value := .operation name [.optional] (.ok v)

/-- A list of nodes as a run over them. -/
def Value.nodeRun (name : String) (ns : List Xml.DocumentNode) : Value := .run name (ns.map .node)

open Xml

/-- The pairs `name="value"` that the content of an instruction holds. -/
def pseudoAttributes (content : List Char) : List (String × String) :=
  go (content.length + 1) content
where
  /-- Looks for the next pair. -/
  go : (fuel : Nat) → List Char → List (String × String)
    | 0, _ => []
    | _, [] => []
    | fuel + 1, c :: cs =>
      let isNamePart (c : Char) : Bool := c.isAlphanum || c == '_' || c == '-' || c == ':' || c == '.'
      if isNamePart c then
        let (name, rest) := (c :: cs).span isNamePart
        match rest.dropWhile Char.isWhitespace with
        | '=' :: rest =>
          match rest.dropWhile Char.isWhitespace with
          | quote :: rest =>
            if quote == '"' || quote == '\'' then
              match rest.span (· != quote) with
              | (value, _ :: rest) =>
                (String.ofList name, String.ofList value) :: go fuel rest
              | _ => go fuel rest
            else go fuel (quote :: rest)
          | [] => []
        | rest => go fuel rest
      else go fuel cs

/-- The attributes of a node as pairs of a key and a value. -/
def attributePairs (n : Node) : List (String × String) :=
  match n with
  | .element tag _ => tag.attributes.map fun a => (a.name.clark, a.value)
  | _ => []

/-- The operations of a mapping of attributes. -/
def attributeMembers (pairs : List (String × String)) : List (String × Value) :=
  let keys : List Value := pairs.map fun p => .str p.1
  let values : List Value := pairs.map fun p => .str p.2
  let items : List Value := pairs.map fun p => .tuple [.str p.1, .str p.2]
  let needing (name : String) : String × Value := (name, .operation name [.required] (.ok .undefined))
  [("keys", .giving "keys" (.list keys)), ("values", .giving "values" (.list values)),
    ("items", .giving "items" (.list items)), ("iterkeys", .giving "iterkeys" (.run "iterator" keys)),
    ("itervalues", .giving "itervalues" (.run "iterator" values)),
    ("iteritems", .giving "iteritems" (.run "iterator" items)),
    ("clear", .giving "clear" .undefined), needing "get", needing "has_key", needing "pop",
    needing "update"]

/-- The attributes of a node as a value: those of an element are a mapping with members, those of
an instruction plain data. -/
def attributeValue (n : Node) : Value :=
  let pairs := attributePairs n
  match n with
  | .element .. =>
    .record "_Attrib" (attributeMembers pairs) (pairs.map fun (k, v) => (.str k, .str v))
  | .instruction _ s _ =>
    .map ((pseudoAttributes (s.getD "").toList).foldl
      (fun entries (k, v) => Entries.bind entries k (.str v)) [])
  | _ => .map []

/-- What a node says it is: the name of an element; for others the way to make a new one, which
works without arguments for a comment. -/
def tagValue (n : Node) : Value :=
  match n with
  | .element tag _ => .str tag.name.clark
  | .comment .. =>
    .operation "Comment" [.optional] (.ok (.node (DocumentNode.alone (.comment "" none))))
  | .instruction .. => .operation "ProcessingInstruction" [.required, .optional] (.ok .undefined)
  | .reference _ => .operation "Entity" [.required] (.ok .undefined)
  | .text _ => .undefined

/-- The text of a node: what stands in front of the children of an element, and the content of
others. -/
def textValue (n : Node) : Value :=
  match n with
  | .element _ children => .ofText? (leadingText children)
  | .comment s _ => .str s
  | .instruction _ s _ => .str (s.getD "")
  | .reference name => .str ("&" ++ name ++ ";")
  | .text s => .str s

/-- The line on which a node ends its start tag, or itself. A reference is taken to stand on the
line of what is before it, or around it. -/
def lineOf (n : DocumentNode) : Option Nat :=
  match n.node with
  | .element tag _ => tag.line
  | .comment _ line | .instruction _ _ line => line
  | _ =>
    match n.previous? <|> n.parent? with
    | some m => (m.node.element?).bind (·.tag.line)
    | none => none

/-- The prefixes in force on a node with their URIs. -/
def prefixValue (n : DocumentNode) : Value :=
  match n.node with
  | .element tag _ =>
    .map ((Scope.bindings (tag.frame :: n.scope)).map fun b =>
      (.ofText? b.nsPrefix, if b.uri.isEmpty then .undefined else .str b.uri))
  | _ => .map []

/-- The value of `xml:base` that holds for a node. -/
def baseOf (n : DocumentNode) : Option String :=
  (n :: n.ancestors).findSome? fun (m : DocumentNode) => match m.node with
    | .element tag _ => tag.attribute? (Name.clark ⟨some Binding.xml, "base"⟩)
    | _ => none

/-- The document of a node as a value. -/
def treeValue (n : DocumentNode) : Value :=
  let d := n.document
  let named (f : Doctype → Option String) : Value := .ofText? (d.doctype.bind f)
  let info : List (String × Value) := [("xml_version", .str d.version),
    ("root_name", match d.root with
      | .element tag _ => .str tag.name.localName
      | _ => .undefined),
    ("public_id", named (·.publicId)), ("system_url", named (·.systemId))]
  .object "_ElementTree"
    [("getroot", .giving "getroot" (.node d.rootNode)),
      ("iter", .givingAlso "iter" (.nodeRun "ElementDepthFirstIterator" d.rootNode.within)),
      ("docinfo", .object "DocInfo" info true .none [])] true .none []

/-- The operations of nodes that cannot be used without arguments. -/
def operationsWithArguments : List String := [
  "addnext", "addprevious", "append", "cssselect", "extend", "find", "findall", "findtext", "get",
  "index", "insert", "iterfind", "makeelement", "remove", "replace", "set", "xpath"]

/-- The member of a node that has a name. -/
def nodeMember? (n : DocumentNode) (name : String) : Option Value :=
  let node := n.node
  let pairs := attributePairs node
  let operation (v : Value) : Option Value := some (.giving name v)
  let run (kind : String) (ns : List DocumentNode) : Option Value :=
    some (.givingAlso name (.nodeRun kind ns))
  match name with
  | "tag" => some (tagValue node)
  | "text" => some (textValue node)
  | "tail" => some (.ofText? (leadingText n.tail))
  | "attrib" => some (attributeValue node)
  | "prefix" => some (match node with
    | .element tag _ => .ofText? (tag.name.binding.bind (·.nsPrefix))
    | _ => .undefined)
  | "nsmap" => some (prefixValue n)
  | "sourceline" => some (match lineOf n with
    | some l => .int l
    | none => .undefined)
  | "base" => some (.ofText? (baseOf n))
  | "keys" => operation (.list (pairs.map fun p => .str p.1))
  | "values" => operation (.list (pairs.map fun p => .str p.2))
  | "items" => operation (.list (pairs.map fun p => .tuple [.str p.1, .str p.2]))
  | "getchildren" => operation (.list (n.children.map .node))
  | "getparent" => operation (.ofNode? n.parent?)
  | "getnext" => operation (.ofNode? n.next?)
  | "getprevious" => operation (.ofNode? n.previous?)
  | "getroottree" => operation (treeValue n)
  | "iter" | "getiterator" => run "ElementDepthFirstIterator" n.within
  | "iterdescendants" => run "ElementDepthFirstIterator" (n.within.drop 1)
  | "iterchildren" => run "ElementChildIterator" n.children
  | "iterancestors" => run "AncestorsIterator" n.ancestors
  | "itersiblings" => run "SiblingsIterator" (n.following n.familySize)
  | "itertext" => some (.givingAlso name (.run "ElementTextIterator" (node.texts.map .str)))
  | "clear" => some (.givingAlso name .undefined)
  | "target" => match node with
    | .instruction target _ _ => some (.str target)
    | _ => none
  | "name" => match node with
    | .reference entity => some (.str entity)
    | _ => none
  | _ =>
    if operationsWithArguments.contains name then
      some (.operation name [.required] (.ok .undefined))
    else none

end AttrTemplates
