import AttrTemplates.Data.Yaml.Tree
import AttrTemplates.Value.Key

/-!
# `AttrTemplates.Data.Yaml.Document`: YAML data

A node becomes the value that its kind says. The entries of mappings under the merge key come
before a mapping's own entries, so that these prevail; of several mappings to be merged the first
prevails. `Tree.rounds` finds the failure that counts, `Tree.valueOf` the value. A node that lies
in itself has no value, and neither has what it is merged into: they are without end.
-/

set_option autoImplicit false

namespace AttrTemplates.Data.Yaml

namespace Tree

mutual

/-- How deep the nodes below a node lie. -/
def height : Tree → Nat
  | scalar .. | around _ => 0
  | sequence _ items => heightOfItems items + 1
  | mapping _ entries => heightOfEntries entries + 1

/-- The largest height of nodes. -/
def heightOfItems : List Tree → Nat
  | [] => 0
  | t :: ts => max t.height (heightOfItems ts)

/-- The largest height of the keys and values of entries. -/
def heightOfEntries : List (Tree × Tree) → Nat
  | [] => 0
  | (k, v) :: es => max (max k.height v.height) (heightOfEntries es)

end

mutual

/-- The word that a node is: a mapping may hold one that stands for it. -/
def word? : Tree → Option String
  | scalar _ w => some w
  | sequence .. | around _ => none
  | mapping _ entries => standIn? entries

/-- The word among entries that stands for all of them. -/
def standIn? : List (Tree × Tree) → Option String
  | [] => none
  | (k, v) :: es => if k.kind == .standIn then v.word? else standIn? es

end

/-- A key; one that could stand for a whole mapping is a word like others. -/
def asKey : Tree → Tree
  | scalar .standIn w => .scalar .str w
  | t => t

mutual

/-- The entries to be merged and the own ones of a mapping. -/
def merged : List (Tree × Tree) → Except Fault (List (Tree × Tree) × List (Tree × Tree))
  | [] => .ok ([], [])
  | (k, v) :: es => do
    if k.kind == .merge then
      let here ← v.toMerge
      let (others, own) ← merged es
      pure (here ++ others, own)
    else
      let (others, own) ← merged es
      pure (others, (k.asKey, v) :: own)

/-- The entries that a node under the merge key contributes. -/
def toMerge : Tree → Except Fault (List (Tree × Tree))
  | scalar .. => .error .malformed
  | around _ => .error .endless
  | mapping _ entries => do
    let (others, own) ← merged entries
    pure (others ++ own)
  | sequence _ items => toMergeAll items

/-- The entries that mappings contribute, those of the last first. -/
def toMergeAll : List Tree → Except Fault (List (Tree × Tree))
  | [] => .ok []
  | mapping _ entries :: ts => do
    let (others, own) ← merged entries
    let later ← toMergeAll ts
    pure (later ++ (others ++ own))
  | around _ :: _ => .error .endless
  | _ :: _ => .error .malformed

end

/-- Puts entries into a mapping one after the other, given the values of nodes. -/
def putAll (value : Tree → Except Fault Value) (done : Entries) :
    List (Tree × Tree) → Except Fault Entries
  | [] => .ok done
  | (k, v) :: es => do
    let k ← value k
    if !k.isKeyType then throw .malformed
    let v ← value v
    putAll value (Entries.put done k v) es

/-- The entries of a mapping as values, merges included. -/
def entriesOf (value : Tree → Except Fault Value) (entries : List (Tree × Tree)) :
    Except Fault Entries := do
  let (others, own) ← merged entries
  putAll value [] (others ++ own)

/-- The pair that a mapping of one entry is. -/
def pairOf (value : Tree → Except Fault Value) : Tree → Except Fault Value
  | mapping _ [(k, v)] => do
    let k ← value k
    let v ← value v
    pure (.tuple [k, v])
  | _ => .error .malformed

/-- The value of a node that is a word. -/
def wordValue (t : Tree) : Except Fault Value :=
  match t.word?, t.kind, t with
  | some _, .timestamp, mapping .. =>
    .error (.failure (.raised .typeError "expected string or bytes-like object, got 'list'"))
  | some w, kind, _ => kind.scalarValue w
  | none, _, _ => .error .malformed

/-- The value of a node whose height is below `fuel`. -/
def valueOf : (fuel : Nat) → Tree → Except Fault Value
  | 0, _ => .error .malformed
  | fuel + 1, t =>
    match t.kind, t with
    | .seq, sequence _ items => do pure (.list (← items.mapM (valueOf fuel)))
    | .map, mapping _ entries => do pure (.map (← entriesOf (valueOf fuel) entries))
    | .set, mapping _ entries => do
      pure (.set ((← entriesOf (valueOf fuel) entries).map (·.1)))
    | .orderedMap, sequence _ items => do
      pure (.list (← items.mapM (pairOf (valueOf fuel))))
    | .pairs, sequence _ items => do
      pure (.list (← items.mapM (pairOf (valueOf fuel))))
    | _, around _ => .error .endless
    | _, t => t.wordValue

/-! ### Which failure counts

Of several failures the one nearest to the root counts, and of those at the same depth the first.
The nodes are therefore looked at in rounds, a round for each depth, before there are values. -/

/-- Whether a node becomes a collection, which is opened in the next round. -/
def isOpened (t : Tree) : Bool :=
  match t with
  | around _ => true
  | _ => [Kind.seq, .map, .set, .orderedMap, .pairs].contains t.kind

/-- Looks at a node: it is left to the next round, or its value is taken. -/
def seen (t : Tree) : Except Fault (List Tree) :=
  if t.isOpened then .ok [t] else t.wordValue.map fun _ => []

/-- Looks at an entry of a mapping, whose key is no collection. -/
def entrySeen : Tree × Tree → Except Fault (List Tree)
  | (k, v) => do
    if k.isOpened then throw .malformed
    pure ((← k.seen) ++ (← v.seen))

/-- Looks at the only entry of a mapping. -/
def pairSeen : Tree → Except Fault (List Tree)
  | mapping _ [(k, v)] => do pure ((← k.seen) ++ (← v.seen))
  | _ => .error .malformed

/-- Opens a node: what is left to the next round. -/
def opened (t : Tree) : Except Fault (List Tree) :=
  match t.kind, t with
  | .seq, sequence _ items => do pure (← items.mapM seen).flatten
  | .map, mapping _ entries | .set, mapping _ entries => do
    let (others, own) ← merged entries
    pure (← (others ++ own).mapM entrySeen).flatten
  | .orderedMap, sequence _ items | .pairs, sequence _ items => do
    pure (← items.mapM pairSeen).flatten
  | _, around _ => .ok []
  | _, _ => .error .malformed

/-- Opens nodes, and those left to the next round, for so many rounds. -/
def rounds : (fuel : Nat) → List Tree → Except Fault Unit
  | 0, _ => .ok ()
  | _, [] => .ok ()
  | fuel + 1, ts => do rounds fuel (← ts.mapM opened).flatten

/-- The value of a node. -/
def value (t : Tree) : Except Fault Value := do
  rounds (t.height + 1) (← t.seen)
  valueOf (t.height + 1) t

end Tree

/-- A character that may stand in a text. -/
def isPrintable (c : Char) : Bool :=
  let n := c.toNat
  n == 0x09 || n == 0x0A || n == 0x0D || (0x20 ≤ n && n ≤ 0x7E) || n == 0x85
    || (0xA0 ≤ n && n ≤ 0xFFFD) || (0x10000 ≤ n && (Text.half? c).isNone)

/-- Reads a text of YAML. -/
def read (s : String) : Except Fault Value := do
  let cs := s.toList
  if !cs.all isPrintable then throw .malformed
  match ← tree cs with
  | some t => t.value
  | none => pure .undefined

end AttrTemplates.Data.Yaml
