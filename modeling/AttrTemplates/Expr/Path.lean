import AttrTemplates.Number.Digits
import AttrTemplates.Text.Blank
import AttrTemplates.Trace
import AttrTemplates.Value.Member

/-!
# `AttrTemplates.Expr.Path`: following paths into data

A path is a list of atoms between slashes; one slash may lead it. Each atom is one step: a
public member is looked up and, if it is an operation that accepts no arguments, called; a
mapping is asked for the atom as a key; a sequence for the item at an index, negative ones
counting from the end. A step that leads nowhere is undefined, and so is the whole path then.

A path expression gives alternatives between bars. Contexts are searched one after the other,
in each all alternatives, and the first defined value is the answer.
-/

set_option autoImplicit false

namespace AttrTemplates.Expr

/-- Whether an atom is an integer in its usual form: no plus sign, no leading zeros, no
negative zero. -/
def isIndex (atom : String) : Bool :=
  match atom.toList with
  | ['0'] => true
  | '-' :: c :: cs => '1' ≤ c && c ≤ '9' && cs.all Number.isDigit
  | c :: cs => '1' ≤ c && c ≤ '9' && cs.all Number.isDigit
  | [] => false

/-- The digits of an index. -/
def indexDigits (atom : String) : List Char :=
  match atom.toList with
  | '-' :: cs => cs
  | cs => cs

/-- The integer that an index writes. -/
def indexValue (atom : String) : Int :=
  let n : Int := Number.ofDigits 10 (indexDigits atom)
  if atom.startsWith "-" then -n else n

/-- The item at an index, a negative one counting from the end. -/
def itemAt (items : List Value) (i : Int) : Value :=
  let j := if i < 0 then i + items.length else i
  if j < 0 then .undefined else (items[j.toNat]?).getD .undefined

/-- The item of a sequence that an atom addresses. -/
def sequenceStep (items : List Value) (atom : String) : Except Failure Value :=
  if !isIndex atom then .ok .undefined
  else
    let digits := (indexDigits atom).length
    if digits > Number.maxDigits then .error (.indexTooLong digits)
    else .ok (itemAt items (indexValue atom))

/-- The value of a member that a path meets: an operation is called, unless it should not be. -/
def memberStep (member : Value) (call : Bool) : Except Failure Value :=
  match member with
  | .operation _ parameters outcome =>
    if !call then .ok member
    else if acceptsNoArguments parameters then outcome
    else .ok .undefined
  | _ => .ok member

/-- One step of a path. -/
def step (v : Value) (atom : String) (call : Bool := true) : Except Failure Value :=
  match v.member? atom with
  | some member => memberStep member call
  | none =>
    match v with
    | .map entries | .record _ _ entries => .ok (Entries.get entries atom)
    | .object _ _ _ .mapping entries => .ok (Entries.get entries atom)
    | .list items | .tuple items => sequenceStep items atom
    | .parts _ items => sequenceStep (items.map (·.2)) atom
    | .object _ _ _ .sequence entries => sequenceStep (entries.map (·.2)) atom
    | _ => .ok .undefined

/-- Follows atoms. The last of them is called unless `callLast` is false. -/
def walk (callLast : Bool) : Value → List String → Except Failure Value
  | v, [] => .ok v
  | v, [atom] => step v atom callLast
  | v, atom :: atoms => do
    let w ← step v atom
    if w.isUndefined then pure .undefined else walk callLast w atoms

/-- The atoms of a path without alternatives. -/
def atoms (path : List Char) : List String :=
  let path := match path with
    | '/' :: rest => rest
    | _ => path
  (Text.splitAt '/' path).map String.ofList

/-- The alternatives of a path, each as its atoms. -/
def alternatives (path : String) : List (List String) :=
  (Text.splitAt '|' (Text.trim path.toList)).map fun a => atoms (Text.trim a)

/-- The first defined value among alternatives in one context. -/
def firstAlternative (callLast : Bool) (context : Value) :
    List (List String) → Except Failure Value
  | [] => .ok .undefined
  | a :: as => do
    let v ← walk callLast context a
    if v.isUndefined then firstAlternative callLast context as else pure v

/-- The first defined value among alternatives in a list of contexts. -/
def firstContext (callLast : Bool) (as : List (List String)) : List Value → Except Failure Value
  | [] => .ok .undefined
  | c :: cs => do
    let v ← firstAlternative callLast c as
    if v.isUndefined then firstContext callLast as cs else pure v

/-- The value of a path expression. That it is undefined is noted. -/
def resolve (path : String) (contexts : List Value) (callLast : Bool := true) : Traced Value := do
  let v ← Traced.ofExcept (firstContext callLast (alternatives path) contexts)
  if v.isUndefined then note (.undefinedPath path contexts.length)
  pure v

end AttrTemplates.Expr
