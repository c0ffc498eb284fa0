import AttrTemplates.Value.Key
import AttrTemplates.Value.Member
import AttrTemplates.Value.Shown

/-!
# `AttrTemplates.Value.Iteration`: values as sequences of items

A loop runs over the items of a list, tuple or set, the characters of a text, the numbers of
bytes, the keys of a mapping, or the children of an element. Everything else has no items.

`Value.toEntries` reads a value as a mapping: plain data that is one, something that has a member
`keys` and can be asked for each of them, or a sequence of pairs. An object over a mapping offers
its keys alone, so without such a member it is read as the sequence of them.
-/

set_option autoImplicit false

namespace AttrTemplates

/-- The items of a value; none when it has no notion of items. -/
def Value.items? : Value → Option (List Value)
  | .str s => some (s.toList.map fun c => .str (String.singleton c))
  | .bytes bs => some (bs.map fun b => .int b.toNat)
  | .list items | .tuple items | .set items => some items
  | .parts _ items => some (items.map (·.2))
  | .map entries | .record _ _ entries => some (entries.map (·.1))
  | .object _ _ _ .mapping entries => some (entries.map (·.1))
  | .object _ _ _ .sequence entries => some (entries.map (·.2))
  | .node n => some (n.children.map .node)
  | .run _ items => some items
  | _ => none

/-- Puts the pairs of a sequence, counted from `index`, under their keys. -/
def entriesOfPairs (done : Entries) (index : Nat) : List Value → Except Failure Entries
  | [] => .ok done
  | item :: items =>
    match item.items? with
    | none => .error (.noPairAtAll index)
    | some [k, v] =>
      if k.isKeyType then entriesOfPairs (done.put k v) (index + 1) items
      else .error (.unhashable k.fullTypeName)
    | some other => .error (.notAPair index other.length)

/-- The value that something gives for a key it named itself. -/
def Value.answerFor (v key : Value) : Except Failure Value :=
  match v with
  | .object _ _ _ .mapping entries => match Entries.find entries key with
    | some found => .ok found
    | none => .error (.missingEntry key.shown)
  | .object _ _ _ .sequence entries => match key.integer? with
    | some i =>
      let j := if i < 0 then i + entries.length else i
      match (if j < 0 then none else entries[j.toNat]?) with
      | some (_, found) => .ok found
      | none => .error (.raised .indexError "list index out of range")
    | none => .error (.raised .typeError
        ("list indices must be integers or slices, not " ++ key.typeName))
  | .node _ => .error (.raised .typeError
      ("'" ++ key.fullTypeName ++ "' object cannot be interpreted as an integer"))
  | v => .error (.raised .typeError ("'" ++ v.fullTypeName ++ "' object is not subscriptable"))

/-- Puts what something gives for its keys under them. -/
def entriesOfKeys (v : Value) (done : Entries) : List Value → Except Failure Entries
  | [] => .ok done
  | key :: keys => do
    let found ← v.answerFor key
    if key.isKeyType then entriesOfKeys v (done.put key found) keys
    else .error (.unhashable key.fullTypeName)

/-- The keys that something names when its member `keys` is called. -/
def Value.namedKeys (v keys : Value) : Except Failure (List Value) :=
  match keys with
  | .operation _ _ outcome => do
    let named ← outcome
    match named.items? with
    | some items => pure items
    | none => .error (.raised .typeError (v.fullTypeName ++ ".keys() returned a non-iterable (type "
        ++ named.fullTypeName ++ ")"))
  | other => .error (.raised .typeError ("'" ++ other.fullTypeName ++ "' object is not callable"))

/-- A value as the entries of a mapping. -/
def Value.toEntries (v : Value) : Except Failure Entries :=
  match v with
  | .map entries | .record _ _ entries => .ok entries
  | _ =>
    match v.member? "keys" with
    | some keys => do entriesOfKeys v [] (← v.namedKeys keys)
    | none => match v.items? with
      | some items => entriesOfPairs [] 0 items
      | none => .error (.notIterable v.fullTypeName)

/-- A value as the entries of a mapping, none when it does not count as true. -/
def Value.entriesIfAny (v : Value) : Except Failure Entries :=
  if v.truth then v.toEntries else .ok []

end AttrTemplates
