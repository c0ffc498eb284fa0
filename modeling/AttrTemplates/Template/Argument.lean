import AttrTemplates.Expr.Arguments
import AttrTemplates.Failure
import AttrTemplates.Text.Word

/-!
# `AttrTemplates.Template.Argument`: the forms of directive arguments

Most directives take a word and an expression with white space between them, some allow a
keyword in front. A keyword counts as one only if what follows it has the form that remains, so
a variable may be named like a keyword.
-/

set_option autoImplicit false

namespace AttrTemplates

/-- A character of a variable name. -/
def isVariableChar (c : Char) : Bool := Text.isWord c || c == '-'

/-- A character of an attribute name. -/
def isAttributeChar (c : Char) : Bool := Text.isWord c || c == '.' || c == ':' || c == '-'

/-- A word of certain characters and what follows the white space behind it. -/
def wordAndRest (p : Char → Bool) (cs : List Char) : Option (List Char × List Char) :=
  let word := cs.takeWhile p
  let rest := cs.dropWhile p
  let behind := Text.trimStart rest
  if word.isEmpty || behind.isEmpty || rest.length == behind.length then none
  else some (word, behind)

/-- What follows a keyword and white space. -/
def afterKeyword (keyword : String) (cs : List Char) : Option (List Char) :=
  match wordAndRest Char.isAlpha cs with
  | some (word, rest) => if word = keyword.toList then some rest else none
  | none => none

/-- A binding that `define` makes. -/
structure Definition where
  isGlobal : Bool
  name : String
  expression : String
  deriving DecidableEq, Repr

/-- Reads `[local|global] name expression`. -/
def Definition.parse? (argument : String) : Option Definition :=
  let cs := Text.trim argument.toList
  let ofRest (isGlobal : Bool) (rest : List Char) : Option Definition :=
    (wordAndRest isVariableChar rest).map fun (name, expr) =>
      ⟨isGlobal, String.ofList name, String.ofList expr⟩
  ((afterKeyword "local" cs).bind (ofRest false))
    <|> ((afterKeyword "global" cs).bind (ofRest true))
    <|> ofRest false cs

/-- A word and an expression. -/
structure NamedExpression where
  name : String
  expression : String
  deriving DecidableEq, Repr

/-- Reads `name expression`. -/
def NamedExpression.parse? (p : Char → Bool) (argument : String) : Option NamedExpression :=
  (wordAndRest p (Text.trim argument.toList)).map fun (name, expr) =>
    ⟨String.ofList name, String.ofList expr⟩

/-- An expression whose value is inserted, as markup or as text. -/
structure Insertion where
  asMarkup : Bool
  expression : String
  deriving DecidableEq, Repr

/-- Reads `[text|structure] expression`. -/
def Insertion.parse? (argument : String) : Option Insertion :=
  let cs := Text.trim argument.toList
  match afterKeyword "text" cs, afterKeyword "structure" cs with
  | some rest, _ => some ⟨false, String.ofList rest⟩
  | none, some rest => some ⟨true, String.ofList rest⟩
  | none, none => if cs.isEmpty then none else some ⟨false, String.ofList cs⟩

/-- What was read, or the failure that an argument of a directive has the wrong form. -/
def wellFormed {α : Type} (directive argument : String) : Option α → Except Failure α
  | some a => .ok a
  | none => .error (.malformedArgument directive argument)

end AttrTemplates
