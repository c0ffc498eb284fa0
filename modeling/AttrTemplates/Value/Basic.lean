import AttrTemplates.Failure
import AttrTemplates.Text.Blank
import AttrTemplates.Value.Moment
import AttrTemplates.Xml.Place

/-!
# `AttrTemplates.Value.Basic`: the data that templates are filled with

A `Value` is plain data (texts, numbers, sequences, mappings, …) or something that offers named
members: an object, the state of a loop, a node of a document. Members are values, most of them
operations, which are called without arguments when a path meets them.

Mappings keep the order of their entries. `undefined` is the value of every look-up that leads
nowhere.
-/

set_option autoImplicit false

namespace AttrTemplates

/-- The kinds of parameters an operation may have. -/
inductive Parameter where
  | required
  | optional
  /-- Any number of further positional arguments. -/
  | rest
  /-- A required argument that is given by name. -/
  | named
  | namedOptional
  /-- Any number of further named arguments. -/
  | namedRest
  /-- Nothing is known about the parameters. -/
  | unknown
  deriving DecidableEq, Repr

/-- Whether a call without arguments is accepted by these parameters. -/
def acceptsNoArguments (ps : List Parameter) : Bool :=
  ps.all fun p => p != .required && p != .named

/-- The state of a loop: the current index, from zero, and the number of items. -/
structure LoopState where
  index : Int
  length : Int
  deriving DecidableEq, Repr, Inhabited

/-- What an object offers besides its members. -/
inductive Facet where
  | none
  | mapping
  | sequence
  deriving DecidableEq, Repr

/-- Data. -/
inductive Value where
  | undefined
  | bool (b : Bool)
  | int (n : Int)
  | float (x : Float)
  | str (s : String)
  | bytes (bs : List UInt8)
  | list (items : List Value)
  | tuple (items : List Value)
  /-- A tuple with names for its places, and with a name of its own. -/
  | parts (name : String) (items : List (String × Value))
  | set (items : List Value)
  | map (entries : List (Value × Value))
  | moment (m : Moment)
  | duration (d : Duration)
  /-- The time zone of an offset in seconds. -/
  | zone (offset : Int)
  /-- A type as such: it offers nothing. -/
  | type
  | loop (state : LoopState)
  | node (n : Xml.DocumentNode)
  /-- A mapping with members of its own. -/
  | record (name : String) (members : List (String × Value)) (entries : List (Value × Value))
  /-- Items that can be run over and no more, and what such a run is called. -/
  | run (name : String) (items : List Value)
  /-- An operation: its parameters and what calling it gives. -/
  | operation (name : String) (parameters : List Parameter) (outcome : Except Failure Value)
  /-- An object with members. With the facet of a mapping it is one over `entries`, with that
  of a sequence it is one over their values. -/
  | object (name : String) (members : List (String × Value)) (truthy : Bool) (facet : Facet)
    (entries : List (Value × Value))
  deriving Inhabited

/-- The entries of a mapping, in order. -/
abbrev Entries := List (Value × Value)

namespace Value

/-- The name of the type of a value in messages. -/
def typeName : Value → String
  | undefined => "NoneType"
  | bool _ => "bool"
  | int _ => "int"
  | float _ => "float"
  | str _ => "str"
  | bytes _ => "bytes"
  | list _ => "list"
  | tuple _ => "tuple"
  | set _ => "set"
  | map _ => "dict"
  | parts name _ => String.ofList ((Text.splitAt '.' name.toList).getLastD [])
  | moment m => m.typeName
  | duration _ => "timedelta"
  | zone _ => "timezone"
  | type => "type"
  | loop _ => "RepeatItem"
  | node n => match n.node with
    | .element .. => "_Element"
    | .comment .. => "_Comment"
    | .instruction .. => "_ProcessingInstruction"
    | .reference _ => "_Entity"
    | .text _ => "str"
  | record name _ _ | run name _ => name
  | operation .. => "Op"
  | object .. => "Obj"

/-- The name of the type of a value where a value is of no use as what it is taken for: types
that belong to a module are named with it. -/
def fullTypeName (v : Value) : String :=
  match v with
  | parts name _ => name
  | moment m => "datetime." ++ m.typeName
  | duration _ | zone _ => "datetime." ++ v.typeName
  | node n => match n.node with
    | .text _ => "str"
    | _ => "lxml.etree." ++ (node n).typeName
  | record name _ _ | run name _ => "lxml.etree." ++ name
  | v => v.typeName

/-- Whether a value counts as true in a condition. Zero, the empty text and empty collections
do not, nor does an element without children. -/
def truth : Value → Bool
  | undefined => false
  | bool b => b
  | int n => n != 0
  | float x => !(x == 0.0)
  | str s => !s.isEmpty
  | bytes bs => !bs.isEmpty
  | list items | tuple items | set items => !items.isEmpty
  | map entries | record _ _ entries => !entries.isEmpty
  | parts _ items => !items.isEmpty
  | duration d => d.microseconds != 0
  | moment _ | zone _ | type | loop _ | run .. | operation .. => true
  | node n => n.node.element?.any Xml.Element.hasChildren
  | object _ _ truthy _ _ => truthy

/-- Whether a value is undefined. -/
def isUndefined : Value → Bool
  | undefined => true
  | _ => false

/-- A value unless it is undefined. -/
def defined? : Value → Option Value
  | undefined => none
  | v => some v

/-- The text of a value that is one. -/
def str? : Value → Option String
  | str s => some s
  | _ => none

end Value

/-! ### Mappings -/

/-- Whether a key is the text `k`. -/
def Value.isKey (k : String) : Value → Bool
  | .str s => s == k
  | _ => false

namespace Entries

/-- The value under a text key. -/
def get? (entries : Entries) (k : String) : Option Value :=
  (entries.find? fun e => e.1.isKey k).map (·.2)

/-- The value under a text key, undefined when there is none. -/
def get (entries : Entries) (k : String) : Value := (entries.get? k).getD .undefined

/-- Binds a text key: in its old place when it is there, and otherwise at the end. -/
def bind (entries : Entries) (k : String) (v : Value) : Entries :=
  match entries with
  | [] => [(.str k, v)]
  | e :: rest => if e.1.isKey k then (e.1, v) :: rest else e :: Entries.bind rest k v

/-- Removes a text key. -/
def erase (entries : Entries) (k : String) : Entries := entries.filter fun e => !e.1.isKey k

end Entries

end AttrTemplates
