import AttrTemplates.Xml.Document
import AttrTemplates.Xml.DoctypeReader
import AttrTemplates.Xml.Uri

/-!
# `AttrTemplates.Xml.Reader`: documents from text

Reading stops at the first fault, and the position of that fault is all that is reported. The
faults of a start tag as a whole (a prefix without declaration, an attribute given twice, too
deep a nesting) are found once its last attribute is read, so their position lies behind it;
a wrong end tag is found behind its `>`.

A reference to an entity stays one. The text of the entity is read at the first reference to it,
only to see that it could stand there.
-/

set_option autoImplicit false

namespace AttrTemplates.Xml.Read

/-- An attribute as written. -/
structure WrittenAttribute where
  name : Written
  parts : List ValuePart

/-- The value that a written attribute has. -/
def WrittenAttribute.value (a : WrittenAttribute) : String :=
  String.join (a.parts.map ValuePart.expanded)

/-- The namespace that the prefix `xmlns` stands for, which nothing may declare. -/
def xmlnsNamespace : String := "http://www.w3.org/2000/xmlns/"

/-- What a declaration attribute declares; `none` when it declares nothing, which is so for the
prefix `xml` and for what nothing may be declared as. A URI should have the form of one, and be
absolute without prefix. -/
def declaration (a : WrittenAttribute) : Read (Option Binding) := do
  let uri := a.value
  match a.name.nsPrefix with
  | none =>
    if !uri.isEmpty then
      match uriKind? uri with
      | some .absolute => pure ()
      | some .relative => notice
      | none => object
    if uri == xmlNamespace || uri == xmlnsNamespace then
      object
      pure none
    else pure (some ⟨none, uri⟩)
  | some _ =>
    let p := a.name.localName
    if p == "xml" then
      if uri != xmlNamespace then object
      pure none
    else if uri == xmlNamespace || uri == xmlnsNamespace || uri.isEmpty || p == "xmlns" then
      object
      pure none
    else
      if (uriKind? uri).isNone then object
      pure (some ⟨some p, uri⟩)

/-- Whether an attribute declares a namespace. -/
def WrittenAttribute.declares (a : WrittenAttribute) : Bool :=
  a.name.nsPrefix == some "xmlns" || (a.name.nsPrefix == none && a.name.localName == "xmlns")

/-- Whether blanks in the value of an attribute count. They do if it may hold any text. -/
def keepsBlanks (rules : List AttributeRule) (name : Written) : Bool :=
  (rules.find? fun r => r.name == name.text).all (·.type == .text)

/-- Notes a value of `xml:space` that means nothing. -/
def checkSpace (a : WrittenAttribute) : Read Unit := do
  if a.name == ⟨some "xml", "space"⟩ && a.value != "default" && a.value != "preserve" then notice

/-- Reads the attributes of a start tag, up to its end. `rules` are declared about its element. -/
def attributesFrom (g : Setting) (rules : List AttributeRule)
    (read : List WrittenAttribute) (declared : List Binding) :
    (fuel : Nat) → Read (List WrittenAttribute × List Binding)
  | 0 => stop
  | fuel + 1 => do
    if (← peek) == some '>' || (← looksAt "/>") || (← peek) == none then pure (read, declared)
    else
      match ← written? g.dialect with
      | none => stop
      | some name =>
        let _ ← blanks
        expect "="
        let _ ← blanks
        let parts ← attributeValue g
        let a : WrittenAttribute :=
          ⟨name, if keepsBlanks rules name then parts else collapsed true parts⟩
        if g.dialect.namespaces then checkSpace a
        let (read, declared) ← (do
          if g.dialect.namespaces && a.declares then
            match ← declaration a with
            | some b =>
              -- An element declares a prefix once at most.
              if declared.any fun x => x.nsPrefix == b.nsPrefix then stop
              pure (read, declared ++ [b])
            | none => pure (read, declared)
          else pure (read ++ [a], declared))
        if (← peek) == some '>' || (← looksAt "/>") then pure (read, declared)
        else
          spaced
          attributesFrom g rules read declared fuel

/-- The binding that a rule declares for elements that do not declare one themselves. -/
def defaultBinding? (r : AttributeRule) : Option Binding :=
  match r.presence, r.name.splitOn ":" with
  | .byDefault _ parts, ["xmlns"] => some ⟨none, declaredText parts⟩
  | .byDefault _ parts, ["xmlns", p] => some ⟨some p, declaredText parts⟩
  | _, _ => none

/-- Declarations, and those that rules add to them. -/
def withDefaultBindings (rules : List AttributeRule) (declared : List Binding) : List Binding :=
  (rules.filterMap defaultBinding?).foldl (fun ds b =>
    if ds.any fun d => d.nsPrefix == b.nsPrefix then ds else ds ++ [b]) declared

/-- Attributes, and those that rules add to them. -/
def withDefaults (rules : List AttributeRule) (attributes : List Attribute) : List Attribute :=
  rules.foldl (fun attributes r =>
    match r.presence with
    | .byDefault _ parts =>
      if attributes.any fun a => a.name.localName == r.name then attributes
      else attributes ++ [Attribute.ofParts (.plain r.name) parts]
    | _ => attributes) attributes

/-- The name that a written name stands for in a scope. A name without prefix lies in the
default namespace if it names an element. -/
def resolve? (scope : Scope) (isAttribute : Bool) (w : Written) : Option Name :=
  match w.nsPrefix with
  | some "xml" => some ⟨some Binding.xml, w.localName⟩
  | some p => (scope.uri? (some p)).map fun uri => ⟨some ⟨some p, uri⟩, w.localName⟩
  | none =>
    if isAttribute then some (.plain w.localName)
    else match scope.uri? none with
      | some uri => some (if uri.isEmpty then .plain w.localName else ⟨some ⟨none, uri⟩, w.localName⟩)
      | none => some (.plain w.localName)

/-- Resolves a written name. A prefix without declaration is objected to, and is then part of a
plain name. The second component tells whether there was a meaning. -/
def resolve (scope : Scope) (isAttribute : Bool) (w : Written) : Read (Name × Bool) := do
  match resolve? scope isAttribute w with
  | some n => pure (n, true)
  | none =>
    object
    pure (.plain w.text, false)

/-- Checks that no attribute is given twice. Two of the same meaning whose prefixes differ are
objected to. -/
def checkDistinct (seen : List Name) : List Name → Read Unit
  | [] => pure ()
  | n :: ns => do
    match seen.find? fun m => m.clark == n.clark with
    | none => checkDistinct (seen ++ [n]) ns
    | some m =>
      if m.written == n.written then stop
      object
      checkDistinct seen ns

/-- Checks that the identifiers of elements have the form of names and differ. An attribute is an
identifier if it is declared as one, and `xml:id` always. -/
def checkIds (rules : List AttributeRule) : List (Written × Attribute) → Read Unit
  | [] => pure ()
  | (w, a) :: rest => do
    let always := w == ⟨some "xml", "id"⟩
    if always && !isLocalName (withoutBlanks a.value) then
      object
    if always || rules.any (fun r => r.name == w.text && r.type == .id) then
      if !a.value.isEmpty then
        if (← findings).ids.contains a.value then object
        else remember fun f => { f with ids := f.ids ++ [a.value] }
    checkIds rules rest

/-- Reads a start tag up to its `>` or `/>`, from its `<`. `depth` is the number of elements
it lies in. -/
def startTag (g : Setting) (scope : Scope) (depth : Nat) : Read (Written × Tag) := do
  skip 1
  match ← written? g.dialect with
  | none => stop
  | some name =>
    let _ ← blanks
    let rules := rulesOf g.declarations name.text
    let (attributes, declarations) ← attributesFrom g rules [] [] ((← rest).length + 1)
    if g.dialect.namespaces then
      let declarations := withDefaultBindings rules declarations
      let here : Scope := ⟨declarations, none⟩ :: scope
      -- Attributes are resolved before the tag, so their faults come first.
      let resolved ← attributes.mapM fun a => do
        let (n, known) ← resolve here true a.name
        pure (a.name, Attribute.ofParts n a.parts, known)
      checkDistinct [] ((resolved.filter (·.2.2)).map (·.2.1.name))
      let (tagName, _) ← resolve here false name
      -- The depth is a fault behind the tag, like all that concerns the tag as a whole.
      if g.dialect.depthLimit.any (· ≤ depth) then stop
      checkIds rules (resolved.map fun (w, a, _) => (w, a))
      pure (name, ⟨tagName, resolved.map (·.2.1), declarations, some (← line)⟩)
    else
      let attributes : List Attribute := attributes.map fun a =>
        Attribute.ofParts (.plain a.name.localName) a.parts
      checkDistinct [] (attributes.map (·.name))
      let attributes := if g.dialect.completes then withDefaults rules attributes else attributes
      pure (name, ⟨.plain name.localName, attributes, [], some (← line)⟩)

/-- Reads an end tag, from its `</`. The name that has to be there is as wide as its bytes. -/
def endTag (d : Dialect) (name : Written) : Read Unit := do
  skip 2
  let due := name.text.toList
  let cs ← rest
  let same ← (do
    if due.isPrefixOf cs
        && (cs.drop due.length).head?.any (fun c => c == '>' || isMarkupBlank c) then
      skipBytes due.length
      pure true
    else if name.nsPrefix.isSome then pure ((← written? d) == some name)
    else pure ((← name?) == some name.text))
  let _ ← blanks
  expect ">"
  -- Even a wrong end tag has to end before it is a fault.
  if !same then stop

/-- Adds a node behind those read so far, which are in reverse; text joins text. -/
def pushNode (read : List Node) (n : Node) : List Node :=
  match n, read with
  | .text t, .text s :: read => .text (s ++ t) :: read
  | n, read => n :: read

mutual

/-- Reads content up to an end tag or the end of the text. -/
def content (g : Setting) (scope : Scope) (depth : Nat) (read : List Node) :
    (fuel : Nat) → Read (List Node)
  | 0 => stop
  | fuel + 1 => do
    match ← peek with
    | none => pure read.reverse
    | some '<' =>
      if ← looksAt "</" then pure read.reverse
      else
        let n ←
          if ← looksAt "<?" then instruction g.dialect
          else if ← looksAt "<![CDATA[" then literal
          else if ← looksAt "<!--" then comment
          else element g scope depth fuel
        content g scope depth (pushNode read n) fuel
    | some '&' =>
      let n ← contentReference g depth fuel
      content g scope depth (pushNode read n) fuel
    | some _ =>
      let cs ← characters [] ((← rest).length + 1)
      content g scope depth (pushNode read (.text (String.ofList (normalLineEnds cs)))) fuel

/-- Reads an element, from its `<`. -/
def element (g : Setting) (scope : Scope) (depth : Nat) : (fuel : Nat) → Read Node
  | 0 => stop
  | fuel + 1 => do
    let (written, tag) ← startTag g scope depth
    if ← looksAt "/>" then
      skip 2
      pure (.element tag [])
    else
      expect ">"
      let children ← content g (tag.frame :: scope) (depth + 1) [] fuel
      if (← peek) == none then stop
      endTag g.dialect written
      pure (.element tag children)

/-- Reads a reference in content: characters, or a reference that stays. The text of an entity
has to be content itself, in which the namespaces around the reference do not count. -/
def contentReference (g : Setting) (depth : Nat) : (fuel : Nat) → Read Node
  | 0 => stop
  | fuel + 1 => do
    skip 1
    if (← peek) == some '#' then
      skip 1
      pure (.text (String.singleton (← characterReference)))
    else
      let n ← entityName
      match predefined? n, g.entity? n with
      | some c, _ => pure (.text (String.singleton c))
      | none, some (.internal replacement _) =>
        -- A text that leads back to itself would never end.
        if g.opened.contains n then stop
        -- Once a text is known to be content it is not read again.
        if !(← findings).checked.contains n then
          if nestingLimit ≤ g.opened.length then stop
          let _ ← within replacement.toList (do
            let _ ← content { g with opened := n :: g.opened } [] (depth + 1) [] fuel
            if (← peek) != none then stop)
          remember fun f => { f with checked := n :: f.checked }
        pure (.reference n)
      | none, some (.external _) => pure (.reference n)
      | none, some (.unparsed ..) => stop
      | none, none =>
        if !g.forgives then stop
        notice
        pure (.reference n)

end

/-- Reads the comments and instructions around the root, blanks between them passed over. -/
def surroundings (d : Dialect) (read : List Node) : (fuel : Nat) → Read (List Node)
  | 0 => stop
  | fuel + 1 => do
    let _ ← blanks
    if ← looksAt "<?" then
      let n ← instruction d
      surroundings d (read ++ [n]) fuel
    else if ← looksAt "<!--" then
      let n ← comment
      surroundings d (read ++ [n]) fuel
    else pure read

/-! ### Whole documents -/

/-- The length of all texts that entities stand for. -/
def replacementLength (declarations : List Declaration) : Nat :=
  declarations.foldl (fun length d =>
    match d with
    | .entity _ _ (.internal replacement _) => length + replacement.length + 1
    | _ => length) 0

/-- Reads a document, from behind its declaration. -/
def documentFrom (d : Dialect) (version : String) (standalone : Bool) : Read Document := do
  let length := (← rest).length
  let opening ← surroundings d [] (length + 1)
  let g : Setting := { dialect := d, standalone }
  let (doctype?, g, heading) ← (do
    if ← looksAt "<!DOCTYPE" then
      let (t, g) ← doctype g
      let heading ← surroundings d [] (length + 1)
      pure (some t, g, heading)
    else pure (none, g, []))
  -- Comments and instructions are passed, so what begins here is the root.
  if (← peek) != some '<' then stop
  let root ← element g [] 0 (2 * (length + replacementLength g.declarations) + 1)
  let closing ← surroundings d [] (length + 1)
  if (← peek) != none then stop
  let (opening, heading) := if doctype?.isSome then (opening, heading) else ([], opening)
  pure { version, opening, doctype := doctype?, heading, root, tail := [], outer := [], closing }

end AttrTemplates.Xml.Read
