import AttrTemplates.Data.Yaml.Kind
import AttrTemplates.Data.Yaml.Token

/-!
# `AttrTemplates.Data.Yaml.Tree`: the nodes of a text

Tokens make a tree of scalars, sequences and mappings, each with its kind. A name given to a node
with an anchor stands for it from then on. A text holds one document at most.
-/

set_option autoImplicit false

namespace AttrTemplates.Data.Yaml

/-- A node of a text. -/
inductive Tree where
  | scalar (kind : Kind) (word : String)
  | sequence (kind : Kind) (items : List Tree)
  | mapping (kind : Kind) (entries : List (Tree × Tree))
  /-- The collection of a name once more, in which the node lies: it has no end. -/
  | around (name : String)
  deriving Inhabited

/-- The kind of a node. -/
def Tree.kind : Tree → Kind
  | scalar k _ | sequence k _ | mapping k _ => k
  | around _ => .unknown

/-- Whether a node is the collection of a name, in which it lies. -/
def Tree.isAround (name : Option String) : Tree → Bool
  | around n => name == some n
  | _ => false

/-- An entry of the mapping of a name, without the mapping itself among those to be merged into
it: that would add nothing. -/
def Tree.unlessItself? (name : Option String) : Tree × Tree → Option (Tree × Tree)
  | (k, v) =>
    if k.kind != .merge then some (k, v)
    else if v.isAround name then none
    else match v with
      | sequence kind items => some (k, .sequence kind (items.filter fun t => !t.isAround name))
      | _ => some (k, v)

/-- The mapping with a name, if it has one, of some entries. -/
def Tree.ofEntries (kind : Kind) (name : Option String) (entries : List (Tree × Tree)) : Tree :=
  .mapping kind (entries.filterMap (unlessItself? name))

/-- The node where nothing is written. -/
def Tree.nothing : Tree := .scalar .null ""

/-- What is known while nodes are read. -/
structure Reading where
  tokens : List Token
  /-- What tags begin with that are written with a handle. -/
  handles : List (String × String)
  /-- The nodes with names; none for one that is still being read. -/
  anchors : List (String × Option Tree)

/-- A reader of nodes. -/
abbrev Nodes := StateT Reading (Except Fault)

namespace Nodes

/-- The next token. -/
def peek : Nodes Token := do pure ((← get).tokens.headD .streamEnd)

/-- Passes over the next token. -/
def pass : Nodes Unit := modify fun r => { r with tokens := r.tokens.tail }

/-- Passes over a token if it comes next, and tells whether it did. -/
def accept (t : Token) : Nodes Bool := do
  if (← peek) == t then
    pass
    pure true
  else pure false

/-- Passes over a token that has to come next. -/
def expect (t : Token) : Nodes Unit := do
  if !(← accept t) then throw .malformed

/-- What stands before a node: its name and its tag, in either order. -/
structure Properties where
  anchor : Option String
  tag : Option String

/-- The full tag of a token. -/
def fullTag (handle : Option String) (suffix : String) : Nodes String := do
  match handle with
  | none => pure suffix
  | some h =>
    match (← get).handles.lookup h with
    | some start => pure (start ++ suffix)
    | none => throw .malformed

/-- Reads a tag, if one comes next. -/
def tag? : Nodes (Option (Option String × String)) := do
  match ← peek with
  | .tag h s =>
    pass
    pure (some (h, s))
  | _ => pure none

/-- Reads a name, if one comes next. -/
def anchor? : Nodes (Option String) := do
  match ← peek with
  | .anchor n =>
    pass
    pure (some n)
  | _ => pure none

/-- Reads the properties of a node. -/
def properties : Nodes Properties := do
  let first ← anchor?
  let tag ← tag?
  let anchor ← if first.isSome then pure first else anchor?
  match tag with
  | none => pure ⟨anchor, none⟩
  | some (h, s) => pure ⟨anchor, some (← fullTag h s)⟩

/-- Gives a node a name, or keeps the name for one that is to come. -/
def nameNode (anchor : Option String) (t : Option Tree) : Nodes Unit := do
  match anchor with
  | some n => modify fun r => { r with anchors := (n, t) :: r.anchors.filter (·.1 != n) }
  | none => pure ()

/-- Whether a tag leaves it open what a node is. -/
def isOpenTag (tag : Option String) : Bool := tag.all (· == "!")

/-- The kind of a collection with a tag. -/
def collectionKind (usual : Kind) (tag : Option String) : Kind :=
  if isOpenTag tag then usual else Kind.ofTag (tag.getD "")

/-- The kind of a scalar with a tag. -/
def scalarKind (isPlain : Bool) (word : String) (tag : Option String) : Kind :=
  match tag with
  | none => if isPlain then Kind.ofPlain word else .str
  | some t => if t == "!" then Kind.ofPlain word else Kind.ofTag t

/-- The kind of a scalar with properties where nothing is written. -/
def emptyKind (tag : Option String) : Kind :=
  if isOpenTag tag then .null else Kind.ofTag (tag.getD "")

/-- The deepest nesting that is read. -/
def maxDepth : Nat := 480

mutual

/-- Reads a node that lies in `depth` others. `inBlock` tells whether collections shown by
indentation may come, and `dashes` whether a sequence may come that is not indented. -/
def node (depth : Nat) (inBlock dashes : Bool) : (fuel : Nat) → Nodes Tree
  | 0 => throw .malformed
  | fuel + 1 => do
    if depth > maxDepth then throw (.failure .nestingTooDeep)
    match ← peek with
    | .alias n =>
      pass
      match (← get).anchors.lookup n with
      | some (some t) => pure t
      | some none => pure (.around n)
      | none => throw .malformed
    | _ =>
      let ⟨anchor, tag⟩ ← properties
      let known := (← get).anchors
      if anchor.any fun n => (known.lookup n).isSome then throw .malformed
      let t ← content depth inBlock dashes anchor tag fuel
      nameNode anchor (some t)
      pure t
termination_by structural fuel => fuel

/-- Reads what follows the properties of a node. -/
def content (depth : Nat) (inBlock dashes : Bool) (anchor tag : Option String) :
    (fuel : Nat) → Nodes Tree
  | 0 => throw .malformed
  | fuel + 1 => do
    let t ← peek
    if dashes && t == .blockEntry then
      nameNode anchor none
      pure (.sequence (collectionKind .seq tag) (← dashedItems depth [] fuel))
    else match t with
      | .scalar word isPlain =>
        pass
        pure (.scalar (scalarKind isPlain word tag) word)
      | .flowSequenceStart =>
        pass
        nameNode anchor none
        pure (.sequence (collectionKind .seq tag) (← flowItems depth true [] fuel))
      | .flowMappingStart =>
        pass
        nameNode anchor none
        pure (.ofEntries (collectionKind .map tag) anchor (← flowEntries depth true [] fuel))
      | .blockSequenceStart =>
        if !inBlock then throw .malformed
        pass
        nameNode anchor none
        pure (.sequence (collectionKind .seq tag) (← blockItems depth [] fuel))
      | .blockMappingStart =>
        if !inBlock then throw .malformed
        pass
        nameNode anchor none
        pure (.ofEntries (collectionKind .map tag) anchor (← blockEntries depth [] fuel))
      | _ =>
        if anchor.isSome || tag.isSome then pure (.scalar (emptyKind tag) "")
        else throw .malformed
termination_by structural fuel => fuel

/-- Reads a node unless one of some tokens comes next: then nothing is written. -/
def nodeUnless (ends : List Token) (depth : Nat) (inBlock dashes : Bool) :
    (fuel : Nat) → Nodes Tree
  | 0 => throw .malformed
  | fuel + 1 => do
    if ends.contains (← peek) then pure .nothing
    else node (depth + 1) inBlock dashes fuel
termination_by structural fuel => fuel

/-- Reads the items of an indented sequence; `read` are those before, in reverse. -/
def blockItems (depth : Nat) (read : List Tree) : (fuel : Nat) → Nodes (List Tree)
  | 0 => throw .malformed
  | fuel + 1 => do
    if ← accept .blockEntry then
      let t ← nodeUnless [.blockEntry, .blockEnd] depth true false fuel
      blockItems depth (t :: read) fuel
    else
      expect .blockEnd
      pure read.reverse
termination_by structural fuel => fuel

/-- Reads the items of a sequence that is not indented. -/
def dashedItems (depth : Nat) (read : List Tree) : (fuel : Nat) → Nodes (List Tree)
  | 0 => throw .malformed
  | fuel + 1 => do
    if ← accept .blockEntry then
      let t ← nodeUnless [.blockEntry, .key, .value, .blockEnd] depth true false fuel
      dashedItems depth (t :: read) fuel
    else pure read.reverse
termination_by structural fuel => fuel

/-- Reads the entries of an indented mapping. -/
def blockEntries (depth : Nat) (read : List (Tree × Tree)) :
    (fuel : Nat) → Nodes (List (Tree × Tree))
  | 0 => throw .malformed
  | fuel + 1 => do
    if ← accept .key then
      let k ← nodeUnless [.key, .value, .blockEnd] depth true true fuel
      let v ← (do
        if ← accept .value then nodeUnless [.key, .value, .blockEnd] depth true true fuel
        else pure .nothing)
      blockEntries depth ((k, v) :: read) fuel
    else
      expect .blockEnd
      pure read.reverse
termination_by structural fuel => fuel

/-- Reads the items of a sequence in brackets. An item may be a mapping of one entry. -/
def flowItems (depth : Nat) (isFirst : Bool) (read : List Tree) :
    (fuel : Nat) → Nodes (List Tree)
  | 0 => throw .malformed
  | fuel + 1 => do
    if ← accept .flowSequenceEnd then pure read.reverse
    else
      if !isFirst then expect .flowEntry
      if ← accept .key then
        let k ← nodeUnless [.value, .flowEntry, .flowSequenceEnd] (depth + 1) false false fuel
        let v ← (do
          if ← accept .value then
            nodeUnless [.flowEntry, .flowSequenceEnd] (depth + 1) false false fuel
          else pure .nothing)
        flowItems depth false (.mapping .map [(k, v)] :: read) fuel
      else if ← accept .flowSequenceEnd then pure read.reverse
      else
        let t ← node (depth + 1) false false fuel
        flowItems depth false (t :: read) fuel
termination_by structural fuel => fuel

/-- Reads the entries of a mapping in braces. A value may be left out with its colon. -/
def flowEntries (depth : Nat) (isFirst : Bool) (read : List (Tree × Tree)) :
    (fuel : Nat) → Nodes (List (Tree × Tree))
  | 0 => throw .malformed
  | fuel + 1 => do
    if ← accept .flowMappingEnd then pure read.reverse
    else
      if !isFirst then expect .flowEntry
      if ← accept .key then
        let k ← nodeUnless [.value, .flowEntry, .flowMappingEnd] depth false false fuel
        let v ← (do
          if ← accept .value then
            nodeUnless [.flowEntry, .flowMappingEnd] depth false false fuel
          else pure .nothing)
        flowEntries depth false ((k, v) :: read) fuel
      else if ← accept .flowMappingEnd then pure read.reverse
      else
        let k ← node (depth + 1) false false fuel
        flowEntries depth false ((k, .nothing) :: read) fuel
termination_by structural fuel => fuel

end

/-- The handles that need no directive. -/
def usualHandles : List (String × String) := [("!", "!"), ("!!", tagStart)]

/-- Reads the directives before a document: one version at most, which is one of version 1, and
one meaning for a handle. -/
def directives (versionSeen : Bool) (handles : List (String × String)) :
    (fuel : Nat) → Nodes (List (String × String))
  | 0 => throw .malformed
  | fuel + 1 => do
    match ← peek with
    | .version major =>
      pass
      if versionSeen || major != 1 then throw .malformed
      directives true handles fuel
    | .tagDirective h start =>
      pass
      if (handles.lookup h).isSome then throw .malformed
      directives versionSeen (handles ++ [(h, start)]) fuel
    | .otherDirective =>
      pass
      directives versionSeen handles fuel
    | _ => pure handles

/-- Passes over marks at the end of a document. -/
def documentEnds : (fuel : Nat) → Nodes Unit
  | 0 => pure ()
  | fuel + 1 => do
    if ← accept .documentEnd then documentEnds fuel

/-- Whether a token is a directive. -/
def isDirective : Token → Bool
  | .version _ | .tagDirective .. | .otherDirective => true
  | _ => false

/-- Reads the only document of a text, if there is one. -/
def document (fuel : Nat) : Nodes (Option Tree) := do
  let first ← peek
  if first == .streamEnd then pure none
  else
    let t ← (do
      if isDirective first || first == .documentStart then
        let handles ← directives false [] fuel
        modify fun r => { r with handles := handles ++ usualHandles }
        expect .documentStart
        let next ← peek
        if isDirective next || [.documentStart, .documentEnd, .streamEnd].contains next then
          pure .nothing
        else node 0 true false fuel
      else node 0 true false fuel)
    documentEnds fuel
    expect .streamEnd
    pure (some t)

end Nodes

/-- The node that a text is, if it is not empty. -/
def tree (cs : List Char) : Except Fault (Option Tree) := do
  let ts ← tokens cs
  let (t, _) ← (Nodes.document (4 * ts.length + 10)).run ⟨ts, Nodes.usualHandles, []⟩
  pure t

end AttrTemplates.Data.Yaml
