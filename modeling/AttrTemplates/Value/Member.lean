import AttrTemplates.Value.MomentMember

/-!
# `AttrTemplates.Value.Member`: named members, and how a path step applies

A path atom addresses a *capability* of the value it is applied to: a named member, an entry of
a mapping, or an item of a sequence, looked for in this order. Plain data has no members, so the
entries of a mapping are never hidden by what the mapping could do; and names that begin with an
underscore are private.
-/

set_option autoImplicit false

namespace AttrTemplates

/-- The operations of the state of a loop. -/
def LoopState.member? (l : LoopState) : String → Option Value
  | "index" => some (give "index" (.int l.index))
  | "number" => some (give "number" (.int (l.index + 1)))
  | "length" => some (give "length" (.int l.length))
  | "start" => some (give "start" (.bool (l.index == 0)))
  | "end" => some (give "end" (.bool (l.index == l.length - 1)))
  | "even" => some (give "even" (.bool (l.index % 2 == 0)))
  | "odd" => some (give "odd" (.bool (l.index % 2 == 1)))
  | _ => none
where
  /-- An operation that needs no arguments and gives a value. -/
  give (name : String) (v : Value) : Value := .operation name [] (.ok v)

/-- The public member of a value under a name. -/
def Value.member? (v : Value) (name : String) : Option Value :=
  if name.startsWith "_" then none
  else match v with
    | .object _ members _ facet _ =>
      match members.lookup name with
      | some m => some m
      | none =>
        -- A mapping can always be asked for a key, but not without naming one.
        if facet == .mapping && name == "get" then
          some (.operation name [.required] (.ok .undefined))
        else none
    | .record _ members _ => members.lookup name
    | .loop state => state.member? name
    | .moment m => m.member? name
    | .duration d => d.member? name
    | .zone _ => zoneMember? name
    | .node n => nodeMember? n name
    | _ => none

/-- Whether a value has a public member of a name. -/
def Value.hasMember (v : Value) (name : String) : Bool := (v.member? name).isSome

/-- The capability of a value that a path atom addresses. -/
inductive Capability where
  | operation
  | mapping
  | sequence
  /-- None at all. -/
  | nothing
  deriving DecidableEq, Repr

/-- The name of a capability in reports. -/
def Capability.name : Capability → String
  | operation => "operation"
  | mapping => "mapping"
  | sequence => "sequence"
  | nothing => "opaque"

/-- The capability that an atom addresses. -/
def Value.probe (v : Value) (atom : String) : Capability :=
  if v.hasMember atom then .operation
  else match v with
    | .map _ | .record .. | .object _ _ _ .mapping _ => .mapping
    | .list _ | .tuple _ | .parts .. | .object _ _ _ .sequence _ => .sequence
    | _ => .nothing

end AttrTemplates
