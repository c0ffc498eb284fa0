import AttrTemplates.Number.Shortest
import AttrTemplates.Text.Quoted
import AttrTemplates.Value.Basic

/-!
# `AttrTemplates.Value.Shown`: values as text

`Value.text` is what a value contributes to output. Collections show their members in brackets,
and there texts stand in quotes: `Value.shown` is the form a value has inside another one. Integers
of more than `Number.maxDigits` digits are not written, so what is put anywhere is `Value.written`.
-/

set_option autoImplicit false

namespace AttrTemplates

/-- The state of a loop as text: the number of the current item and of all items. -/
def LoopState.text (l : LoopState) : String :=
  "<RepeatItem " ++ toString (l.index + 1) ++ "/" ++ toString l.length ++ ">"

/-- A node as text. Elements have no text of their own, only a name for what they are. -/
def Xml.Node.summary : Xml.Node → String
  | .element tag _ => "<Element " ++ tag.name.clark ++ ">"
  | .comment s _ => "<!--" ++ s ++ "-->"
  | .instruction target none _ => "<?" ++ target ++ "?>"
  | .instruction target (some s) _ =>
    if s.isEmpty then "<?" ++ target ++ "?>" else "<?" ++ target ++ " " ++ s ++ "?>"
  | .reference n => "&" ++ n ++ ";"
  | .text s => s

mutual

/-- A value inside another one. -/
def Value.shown : Value → String
  | .undefined => "None"
  | .bool b => if b then "True" else "False"
  | .int n => toString n
  | .float x => Number.floatText x
  | .str s => Text.quoted s
  | .bytes bs => Text.quotedBytes bs
  | .list items => "[" ++ ", ".intercalate (shownAll items) ++ "]"
  | .tuple [item] => "(" ++ item.shown ++ ",)"
  | .tuple items => "(" ++ ", ".intercalate (shownAll items) ++ ")"
  | .parts name items => name ++ "(" ++ ", ".intercalate (shownParts items) ++ ")"
  | .set [] => "set()"
  | .set (item :: items) => "\x7b" ++ ", ".intercalate (item.shown :: shownAll items) ++ "\x7d"
  | .map entries => "\x7b" ++ ", ".intercalate (shownEntries entries) ++ "\x7d"
  | .record _ _ entries => "\x7b" ++ ", ".intercalate (shownEntries entries) ++ "\x7d"
  | .moment m => m.shown
  | .duration d => d.shown
  | .zone offset => zoneShown offset
  | .type => "<class>"
  | .loop state => state.text
  | .node n => n.node.summary
  | .run name _ => "<" ++ name ++ ">"
  | .operation name _ _ => "<op " ++ name ++ ">"
  | .object name _ _ _ _ => "<" ++ name ++ ">"

/-- The members of a collection, each as it is shown. -/
def shownAll : List Value → List String
  | [] => []
  | v :: vs => v.shown :: shownAll vs

/-- The named places of a tuple, each as it is shown. -/
def shownParts : List (String × Value) → List String
  | [] => []
  | (name, v) :: vs => (name ++ "=" ++ v.shown) :: shownParts vs

/-- The entries of a mapping, each as it is shown. -/
def shownEntries : List (Value × Value) → List String
  | [] => []
  | (k, v) :: rest => (k.shown ++ ": " ++ v.shown) :: shownEntries rest

end

/-- A value in output. -/
def Value.text : Value → String
  | .str s => s
  | .moment m => m.text
  | .duration d => d.text
  | .zone offset => zoneName offset
  | v => v.shown

/-- Whether an integer has too many digits to be written. -/
def isLongInteger (n : Int) : Bool := n.natAbs ≥ Nat.pow 10 Number.maxDigits

mutual

/-- Whether the text of a value has an integer in it that is too long to be written. -/
def Value.isTooLong : Value → Bool
  | .int n => isLongInteger n
  | .loop state => isLongInteger (state.index + 1) || isLongInteger state.length
  | .list items | .tuple items | .set items => anyTooLong items
  | .map entries | .record _ _ entries => anyEntryTooLong entries
  | _ => false

/-- Whether one of some values is too long to be written. -/
def anyTooLong : List Value → Bool
  | [] => false
  | v :: vs => v.isTooLong || anyTooLong vs

/-- Whether a key or value of some entries is too long to be written. -/
def anyEntryTooLong : List (Value × Value) → Bool
  | [] => false
  | (k, v) :: rest => k.isTooLong || v.isTooLong || anyEntryTooLong rest

end

/-- The text of a value, if it can be written. -/
def Value.written (v : Value) : Except Failure String :=
  if v.isTooLong then .error .integerTooLong else .ok v.text

/-- The text of a value that stands in a larger text: nothing, when it is undefined. -/
def Value.writtenOrNothing : Value → Except Failure String
  | .undefined => .ok ""
  | v => v.written

end AttrTemplates
