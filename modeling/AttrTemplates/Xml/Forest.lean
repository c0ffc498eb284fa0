import AttrTemplates.Xml.Legal
import AttrTemplates.Xml.Move

/-!
# `AttrTemplates.Xml.Forest`: trees that are taken apart and put together

Editing moves nodes from place to place, so it needs a way to say which node is meant. In a
`Forest` every node carries a number of its own, which stays with it wherever it goes.

The trees of a forest stand side by side in one list of parts, exactly as the children of an
element do: a root with the text behind it, the next root, and so on. A node that stands in that
list has no parent. A node always takes the text behind it along; `detach` and `replace` leave
that text where it is.

Every tree belongs to a document, which counts the prefixes made up in it. A node that is taken
out of a tree still belongs to the document of that tree, until it is put into another one. Its
names are adapted to the namespaces of every place it comes to.

* `Forest.appendText`, `Forest.appendItems` add to the content of a node;
* `Forest.clear` takes everything out of a node;
* `Forest.detach` takes a node out of its parent, `Forest.replace` puts items in its place.

An edit that fails keeps what it has done up to that point.
-/

set_option autoImplicit false

namespace AttrTemplates.Xml

/-- What a node is besides its content. -/
inductive Shape where
  | element (tag : Tag)
  | comment (content : String) (line : Option Nat)
  | instruction (target : String) (content : Option String) (line : Option Nat)
  | reference (entity : String)
  deriving Repr, Inhabited

/-- A part of content: text, or a node with its number. -/
inductive Part where
  | text (s : String)
  | node (number : Nat) (shape : Shape) (content : List Part)
  deriving Repr, Inhabited

/-- Trees whose nodes are numbered. -/
structure Forest where
  parts : List Part
  /-- The first number that is free. -/
  next : Nat
  /-- The documents that roots belong to, each named by the number of its first root. -/
  homes : List (Nat × Nat)
  /-- The numbers of prefixes made up in documents, none where there is no entry. -/
  made : List (Nat × Prefixes)
  deriving Repr, Inhabited

/-! ### Numbering -/

mutual

/-- A node as a part, numbered from `next` on in document order. -/
def Node.numbered (next : Nat) : Node → Part × Nat
  | .element tag children =>
    let (content, after) := numberedList (next + 1) children
    (.node next (.element tag) content, after)
  | .comment s line => (.node next (.comment s line) [], next + 1)
  | .instruction target s line => (.node next (.instruction target s line) [], next + 1)
  | .reference n => (.node next (.reference n) [], next + 1)
  | .text s => (.text s, next)

/-- Nodes as parts, numbered from `next` on in document order. -/
def numberedList (next : Nat) : List Node → List Part × Nat
  | [] => ([], next)
  | n :: ns =>
    let (p, after) := n.numbered next
    let (ps, after) := numberedList after ns
    (p :: ps, after)

end

mutual

/-- A part without its number. -/
def Part.toNode : Part → Node
  | .text s => .text s
  | .node _ (.element tag) content => .element tag (toNodes content)
  | .node _ (.comment s line) _ => .comment s line
  | .node _ (.instruction target s line) _ => .instruction target s line
  | .node _ (.reference n) _ => .reference n

/-- Parts without their numbers. -/
def toNodes : List Part → List Node
  | [] => []
  | p :: ps => p.toNode :: toNodes ps

end

mutual

/-- A part with the tags of a node that has the same form. -/
def Part.withTags : Part → Node → Part
  | .node n (.element _) content, .element tag children =>
    .node n (.element tag) (withTagsAll content children)
  | p, _ => p

/-- Parts with the tags of nodes that have the same form. -/
def withTagsAll : List Part → List Node → List Part
  | p :: ps, n :: ns => p.withTags n :: withTagsAll ps ns
  | ps, _ => ps

end

/-- A part as it is after a move into a scope, and the number of prefixes made up. -/
def Part.adoptInto (around : Scope) (made : Prefixes) (p : Part) : Part × Prefixes :=
  let (n, made) := p.toNode.adoptInto around made
  (p.withTags n, made)

/-! ### Looking around -/

namespace Part

/-- Whether a part is text. -/
def isText : Part → Bool
  | text _ => true
  | node .. => false

/-- The number of a node. -/
def number? : Part → Option Nat
  | text _ => none
  | node n .. => some n

/-- The text of a text. -/
def textContent : Part → String
  | text s => s
  | node .. => ""

/-- What stands in a node. -/
def content : Part → List Part
  | text _ => []
  | node _ _ c => c

/-- The text at the front of parts, none if there is not even an empty one. -/
def front? (ps : List Part) : Option String :=
  match ps.takeWhile isText with
  | [] => none
  | ts => some (String.join (ts.map textContent))

/-- What remains behind the text at the front. -/
def behindFront (ps : List Part) : List Part := ps.dropWhile isText

/-- The numbers of the nodes among parts, not of those inside them. -/
def numbers (ps : List Part) : List Nat := ps.filterMap number?

/-- The node of a number, wherever it stands, with all that follows it there. -/
def find? (n : Nat) : List Part → Option (Part × List Part)
  | [] => none
  | text _ :: ps => find? n ps
  | node m shape content :: ps =>
    if m = n then some (node m shape content, ps)
    else find? n content <|> find? n ps

/-- The number of the node that a node stands in, none for one that stands in no other. -/
def parent? (n : Nat) (around : Option Nat) : List Part → Option (Option Nat)
  | [] => none
  | text _ :: ps => parent? n around ps
  | node m _ content :: ps =>
    if m = n then some around
    else parent? n (some m) content <|> parent? n around ps

/-- The frames around a node, when `around` are those around all the parts. -/
def scope? (n : Nat) (around : Scope) : List Part → Option Scope
  | [] => none
  | text _ :: ps => scope? n around ps
  | node m shape content :: ps =>
    if m = n then some around
    else
      let inner := match shape with
        | .element tag => tag.frame :: around
        | _ => around
      scope? n inner content <|> scope? n around ps

/-- The root of the tree that a node stands in. -/
def root? (n : Nat) : List Part → Option Nat
  | [] => none
  | text _ :: ps => root? n ps
  | node m shape content :: ps =>
    if (find? n [node m shape content]).isSome then some m else root? n ps

/-- Changes the list in which a node stands, from the node on. -/
def editAt (n : Nat) (f : Part → List Part → List Part) : List Part → List Part
  | [] => []
  | text s :: ps => text s :: editAt n f ps
  | node m shape content :: ps =>
    if m = n then f (node m shape content) ps
    else node m shape (editAt n f content) :: editAt n f ps

end Part

namespace Forest

/-- The forest of one tree, whose root has the number zero. -/
def ofRoot (root : Node) : Forest :=
  let (p, next) := root.numbered 0
  ⟨[p], next, [(0, 0)], []⟩

/-- Adds a tree and tells the number of its root. -/
def add (f : Forest) (root : Node) : Forest × Nat :=
  let (p, next) := root.numbered f.next
  ({ f with parts := f.parts ++ [p], next, homes := (f.next, f.next) :: f.homes }, f.next)

/-- A node of the forest. -/
def node? (f : Forest) (n : Nat) : Option Part := (Part.find? n f.parts).map (·.1)

/-- The text behind a node. -/
def tail (f : Forest) (n : Nat) : List Part :=
  match Part.find? n f.parts with
  | some (_, after) => after.takeWhile Part.isText
  | none => []

/-- What stands in a node. -/
def content (f : Forest) (n : Nat) : List Part :=
  match f.node? n with
  | some p => p.content
  | none => []

/-- The number of the node that a node stands in. -/
def parent? (f : Forest) (n : Nat) : Option Nat := (Part.parent? n none f.parts).join

/-- The node found by going down child numbers, text not counted. -/
def child? (f : Forest) (n : Nat) : List Nat → Option Nat
  | [] => (f.node? n).bind Part.number?
  | i :: path =>
    match (Part.numbers (f.content n))[i]? with
    | some m => f.child? m path
    | none => none

/-- The number of the last of the nodes in a node. -/
def lastChild? (f : Forest) (n : Nat) : Option Nat := (Part.numbers (f.content n)).getLast?

/-- The number of the node before a node in its parent. -/
def previous? (f : Forest) (n : Nat) : Option Nat :=
  match f.parent? n with
  | some p => ((Part.numbers (f.content p)).takeWhile (· != n)).getLast?
  | none => none

/-- Whether a node is an element. -/
def isElement (f : Forest) (n : Nat) : Bool :=
  match f.node? n with
  | some (.node _ (.element _) _) => true
  | _ => false

/-- The name of an element as it is written. -/
def nameOf (f : Forest) (n : Nat) : Except Failure String :=
  match f.node? n with
  | some (.node _ (.element tag) _) => .ok tag.name.written
  | _ => .error .nameless

/-- Whether a node is another or stands somewhere in it. -/
def holds (f : Forest) (outer inner : Nat) : Bool :=
  match f.node? outer with
  | some p => (Part.find? inner [p]).isSome
  | none => false

/-- The document that a node belongs to. -/
def home (f : Forest) (n : Nat) : Nat :=
  let root := (Part.root? n f.parts).getD n
  (f.homes.lookup root).getD root

/-- The number of prefixes made up in the document of a node. -/
def madeAt (f : Forest) (n : Nat) : Prefixes := (f.made.lookup (f.home n)).getD 0

/-- The namespaces in force around a node. -/
def scopeAround (f : Forest) (n : Nat) : Scope := (Part.scope? n [] f.parts).getD []

/-- The namespaces in force in a node. -/
def scopeIn (f : Forest) (n : Nat) : Scope :=
  match f.node? n with
  | some (.node _ (.element tag) _) => tag.frame :: f.scopeAround n
  | _ => f.scopeAround n

/-- Changes the list in which a node stands, from the node on. -/
def editAt (f : Forest) (n : Nat) (g : Part → List Part → List Part) : Forest :=
  { f with parts := Part.editAt n g f.parts }

/-- Changes what stands in a node. -/
def editContent (f : Forest) (n : Nat) (g : List Part → List Part) : Forest :=
  f.editAt n fun p after =>
    match p with
    | .node m shape content => .node m shape (g content) :: after
    | .text s => .text s :: after

end Forest

/-! ### Editing -/

/-- An edit. What it has done before a failure stays done. -/
abbrev Editing := ExceptT Failure (StateM Forest)

/-- Something to be put somewhere: a text, or a node with the text behind it. -/
inductive Filling where
  | text (s : String)
  | node (number : Nat)
  deriving DecidableEq, Repr

namespace Forest

/-- Adds to the text at the front of the content of a node; the text of a comment or instruction
is all its content. -/
def addFrontText (n : Nat) (s : String) (f : Forest) : Forest :=
  f.editAt n fun p after =>
    match p with
    | .node m (.element tag) content =>
      .node m (.element tag)
        (.text ((Part.front? content).getD "" ++ s) :: Part.behindFront content) :: after
    | .node m (.comment t line) content => .node m (.comment (t ++ s) line) content :: after
    | .node m (.instruction target t line) content =>
      .node m (.instruction target (some (t.getD "" ++ s)) line) content :: after
    | p => p :: after

/-- Adds to the text behind a node. -/
def addTailText (n : Nat) (s : String) (f : Forest) : Forest :=
  f.editAt n fun p after =>
    p :: .text ((Part.front? after).getD "" ++ s) :: Part.behindFront after

/-- Adds text behind a node, or at the front of a parent when there is no node before it. -/
def appendText (parent : Nat) (previous : Option Nat) (s : String) : Editing Unit := do
  checkText s
  match previous with
  | some n => modify (addTailText n s)
  | none => modify (addFrontText parent s)

/-- Takes a node, with the text behind it, out of the place where it stands, and puts it into a
parent: before another node, or at the end. -/
def move (n : Nat) (parent : Nat) (anchor : Option Nat) (f : Forest) : Forest :=
  match Part.find? n f.parts with
  | none => f
  | some (p, after) =>
    let (p, made) := p.adoptInto (f.scopeIn parent) (f.madeAt parent)
    let moved := p :: after.takeWhile Part.isText
    let f := { f with made := (f.home parent, made) :: f.made }
    let f := f.editAt n fun _ after => Part.behindFront after
    match anchor with
    | some a => f.editAt a fun q after => moved ++ q :: after
    | none => f.editContent parent (· ++ moved)

/-- Moves a node into an element that does not stand in it. -/
def moveInto (n : Nat) (parent : Nat) (anchor : Option Nat) : Editing Unit := do
  if !(← get).isElement parent then throw .childless
  if (← get).holds n parent then throw .cycle
  if anchor != some n then modify (move n parent anchor)

/-- Adds items at the end of a node, the first text behind the node `previous`. -/
def appendAfter (parent : Nat) (previous : Option Nat) : List Filling → Editing Unit
  | [] => pure ()
  | .text s :: items => do
    appendText parent previous s
    appendAfter parent previous items
  | .node n :: items => do
    moveInto n parent none
    appendAfter parent (some n) items

/-- Adds items at the end of a node. -/
def appendItems (parent : Nat) (items : List Filling) : Editing Unit := do
  appendAfter parent ((← get).lastChild? parent) items

/-- Takes a node out of everything, with the text behind it. -/
def release (n : Nat) (f : Forest) : Forest :=
  match Part.find? n f.parts with
  | none => f
  | some (p, after) =>
    let home := f.home n
    let (p, made) := p.adoptInto [] (f.madeAt n)
    let f := f.editAt n fun _ after => Part.behindFront after
    { f with
      parts := f.parts ++ p :: after.takeWhile Part.isText
      homes := (n, home) :: f.homes
      made := (home, made) :: f.made }

/-- Takes everything out of a node. -/
def clear (n : Nat) (f : Forest) : Forest :=
  let f := f.editAt n fun p after =>
    match p with
    | .node m (.element tag) content => .node m (.element tag) (Part.behindFront content) :: after
    | .node m (.comment _ line) content => .node m (.comment "" line) content :: after
    | .node m (.instruction target _ line) content =>
      .node m (.instruction target none line) content :: after
    | p => p :: after
  (Part.numbers (f.content n)).foldl (fun f m => f.release m) f

/-- Takes a node out of its parent; the text behind it stays. -/
def detach (n : Nat) : Editing Unit := do
  let f ← get
  match f.parent? n with
  | none => pure ()
  | some parent =>
    let tail := (Part.front? (f.tail n)).getD ""
    let previous := f.previous? n
    modify fun f => f.editAt n fun p after => p :: Part.behindFront after
    if !tail.isEmpty then appendText parent previous tail
    modify (release n)

/-- Puts items into a parent, nodes from the `index`-th child on and texts behind `previous`,
and tells the node that comes last. -/
def insertFrom (parent : Nat) (index : Nat) (previous : Option Nat) :
    List Filling → Editing (Option Nat)
  | [] => pure previous
  | .text s :: items => do
    appendText parent previous s
    insertFrom parent index previous items
  | .node n :: items => do
    let anchor := (Part.numbers ((← get).content parent))[index]?
    moveInto n parent anchor
    insertFrom parent (index + 1) (some n) items

/-- Puts items in the place of a node; the text behind the node follows them. -/
def replace (n : Nat) (items : List Filling) : Editing Unit := do
  let f ← get
  match f.parent? n with
  | none => pure ()
  | some parent =>
    let tail := (Part.front? (f.tail n)).getD ""
    let previous := f.previous? n
    let index := ((Part.numbers (f.content parent)).takeWhile (· != n)).length
    modify fun f => f.editAt n fun p after => p :: Part.behindFront after
    modify (release n)
    let last ← insertFrom parent index previous items
    if !tail.isEmpty then appendText parent last tail

end Forest

end AttrTemplates.Xml
