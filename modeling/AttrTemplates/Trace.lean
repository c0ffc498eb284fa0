import AttrTemplates.Failure

/-!
# `AttrTemplates.Trace`: what is noted while a template is filled

Evaluation and processing note `Event`s. Some are warnings, the others help to follow a run.
What has been noted before a failure stays noted, so a `Traced` computation gives its notes
whether it succeeds or not.
-/

set_option autoImplicit false

namespace AttrTemplates

/-- Something worth noting. -/
inductive Event where
  /-- A directive is about to be handled. -/
  | directive (namespaceUri name raw element : String) (line : Option Nat)
  /-- No alternative of a path is defined in any context. -/
  | undefinedPath (path : String) (contexts : Nat)
  /-- Attributes in the namespace of a language that it does not know. -/
  | unhandled (names : List String) (namespaceUri element : String) (line : Option Nat)
  /-- A language keeps a record of a directive it handled; `language` is its number. -/
  | recorded (language : Nat) (name element raw : String)
  deriving DecidableEq, Repr

/-- A line number in a note. -/
def lineText : Option Nat → String
  | some n => toString n
  | none => "None"

/-- Whether an event is a warning. -/
def Event.isWarning : Event → Bool
  | unhandled .. => true
  | _ => false

/-- The text of a note; records have none. -/
def Event.text? : Event → Option String
  | directive ns name raw element line =>
    some (ns ++ ":" ++ name ++ "=" ++ Text.quoted raw ++ " on <" ++ element ++ "> line " ++ lineText line)
  | undefinedPath path contexts =>
    some ("path " ++ Text.quoted path ++ " is undefined in " ++ toString contexts ++ " context(s)")
  | unhandled names ns element line =>
    some ("unhandled TAL attributes '" ++ ",".intercalate names ++ "' in namespace '" ++ ns
      ++ "' on element '" ++ element ++ "' at line " ++ lineText line)
  | recorded .. => none

/-- A computation that may fail and notes events. -/
abbrev Traced := ExceptT Failure (StateM (List Event))

/-- Notes an event. -/
def note (e : Event) : Traced Unit := modify (· ++ [e])

/-- A computation that notes nothing. -/
def Traced.ofExcept {α : Type} : Except Failure α → Traced α
  | .ok a => pure a
  | .error f => throw f

/-- Runs a computation: its outcome and its notes. -/
def Traced.outcome {α : Type} (t : Traced α) : Except Failure α × List Event := t.run.run []

end AttrTemplates
