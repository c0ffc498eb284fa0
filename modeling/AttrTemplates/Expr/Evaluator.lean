import AttrTemplates.Expr.Path
import AttrTemplates.Text.Upper
import AttrTemplates.Text.Word
import AttrTemplates.Value.Shown

/-!
# `AttrTemplates.Expr.Evaluator`: expressions

An expression is an optional type with a colon, and a body. The type says what the body means
and is looked up in the registry of an `Evaluator`; without one, the body is a path. The only
failures of evaluation are a type that is not registered and what a called operation raises.

A string body holds placeholders. Those in braces hold expressions and are filled in first; in
the text so obtained, a dollar sign with the word behind it is then replaced by the value of
that path. So the text of a value that a placeholder brought in is searched for words as well,
but never evaluated as a typed expression.

Evaluation ends: the expressions inside an expression are shorter than it. A registered type
that evaluates its body again has to be written out for that, and one that stands in for paths
would call itself for ever, which is a failure.
-/

set_option autoImplicit false

namespace AttrTemplates.Expr

/-- What the body of an expression means. -/
inductive Meaning where
  /-- A path, the operation at its end called. -/
  | path
  /-- A text with placeholders. -/
  | string
  /-- The opposite of another expression. -/
  | negation
  /-- Whether a path is defined. -/
  | existence
  /-- A path, the operation at its end not called. -/
  | uncalled
  /-- A text with placeholders, in upper case. -/
  | upper
  /-- Always the same value. -/
  | constant (v : Value)
  /-- The body itself. -/
  | verbatim
  /-- The number of contexts. -/
  | contextCount
  /-- Another expression, the contexts searched from the last to the first. -/
  | reversed
  deriving Inhabited

/-- A registry of expression types, in the order of their registration. -/
structure Evaluator where
  types : List (String × Meaning)
  deriving Inhabited

namespace Evaluator

/-- The types that are always there. -/
def standard : Evaluator :=
  ⟨[("path", .path), ("string", .string), ("not", .negation), ("exists", .existence),
    ("nocall", .uncalled)]⟩

/-- Adds a type to a registry, or gives the one of that name a new meaning in its place. -/
def registerIn (name : String) (m : Meaning) : List (String × Meaning) → List (String × Meaning)
  | [] => [(name, m)]
  | t :: ts => if t.1 = name then (name, m) :: ts else t :: registerIn name m ts

/-- Registers a type. -/
def register (ev : Evaluator) (name : String) (m : Meaning) : Evaluator :=
  ⟨registerIn name m ev.types⟩

/-- Removes a type. -/
def unregister (ev : Evaluator) (name : String) : Except Failure Evaluator :=
  if (ev.types.lookup name).isSome then .ok ⟨ev.types.filter fun t => t.1 != name⟩
  else .error (.missingKey name)

/-- The names of the types. -/
def names (ev : Evaluator) : List String := ev.types.map (·.1)

end Evaluator

/-! ### The parts of an expression -/

/-- The type of an expression, if it names one, and its body. White space before and between
them does not belong to either. -/
def form (expr : List Char) : Option (List Char) × List Char :=
  let start := Text.trimStart expr
  match start.takeWhile Text.isWord, start.dropWhile Text.isWord with
  | c :: name, ':' :: body => (some (c :: name), Text.trimStart body)
  | _, _ => (none, start)

/-- A piece of a string body: a character as it is, or an expression in braces. -/
inductive Segment where
  | plain (c : Char)
  | braced (expr : List Char)
  deriving DecidableEq, Repr

/-- Whether a character may stand in an expression in braces. -/
def isBraced (c : Char) : Bool := c != '}' && c != '\n'

/-- The expression up to the next closing brace on the same line, and what follows the brace. -/
def closing? (cs : List Char) : Option (List Char × List Char) :=
  match cs.dropWhile isBraced with
  | '}' :: rest => some (cs.takeWhile isBraced, rest)
  | _ => none

/-- A run of characters and what follows it make the whole. -/
theorem length_takeWhile_add_length_dropWhile (p : Char → Bool) (cs : List Char) :
    (cs.takeWhile p).length + (cs.dropWhile p).length = cs.length := by
  rw [← List.length_append, List.takeWhile_append_dropWhile]

/-- The expression and what follows are put together again by the brace between them. -/
theorem closing?_append {cs expr rest : List Char} (h : closing? cs = some (expr, rest)) :
    expr ++ '}' :: rest = cs := by
  unfold closing? at h
  split at h
  · rename_i behind hbehind
    cases h
    rw [← hbehind, List.takeWhile_append_dropWhile]
  · cases h

/-- Up to a closing brace there is less text than in all. -/
theorem closing?_length {cs expr rest : List Char} (h : closing? cs = some (expr, rest)) :
    expr.length + rest.length < cs.length := by
  rw [← closing?_append h, List.length_append, List.length_cons]
  omega

/-- The segments of a string body. -/
def segments : List Char → List Segment
  | [] => []
  | '$' :: '{' :: cs =>
    match h : closing? cs with
    | some (expr, rest) =>
      have := closing?_length h
      .braced expr :: segments rest
    | none => .plain '$' :: segments ('{' :: cs)
  | c :: cs => .plain c :: segments cs
termination_by cs => cs.length
decreasing_by all_goals simp_wf; try omega

/-- An expression in braces is shorter than the body that holds it. -/
theorem length_lt_of_braced_mem {cs expr : List Char} (h : .braced expr ∈ segments cs) :
    expr.length < cs.length := by
  fun_induction segments cs with
  | case1 => simp at h
  | case2 cs e rest heq hlen ih =>
    simp only [List.mem_cons, Segment.braced.injEq] at h
    simp only [List.length_cons]
    rcases h with rfl | h
    · omega
    · have := ih h
      omega
  | case3 cs heq ih =>
    simp only [List.mem_cons, reduceCtorEq, false_or] at h
    have := ih h
    simp only [List.length_cons] at this ⊢
    omega
  | case4 c cs hne ih =>
    simp only [List.mem_cons, reduceCtorEq, false_or] at h
    have := ih h
    simp only [List.length_cons]
    omega

/-! ### Evaluation -/

/-- The contexts that evaluation searches: one without any name, when none are given. -/
def orEmpty : List Value → List Value
  | [] => [.map []]
  | cs => cs

namespace Evaluator

/-- The value of a word behind a dollar sign. -/
def wordValue (ev : Evaluator) (word : List Char) (contexts : List Value) : Traced Value :=
  let contexts := orEmpty contexts
  let name := String.ofList word
  match ev.types.lookup "path" with
  | none => throw (.unknownType "path")
  | some .path => resolve name contexts
  | some .uncalled => resolve name contexts false
  | some .existence => do pure (.bool !(← resolve name contexts).isUndefined)
  | some .string | some .verbatim => pure (.str name)
  | some .upper => pure (.str (Text.upper name))
  | some (.constant v) => pure v
  | some .contextCount => pure (.int contexts.length)
  | some .negation | some .reversed => throw .nestingTooDeep

/-- A text in which every word behind a dollar sign is replaced by its value. -/
def fillWords (ev : Evaluator) (contexts : List Value) : List Char → Traced (List Char)
  | [] => pure []
  | '$' :: cs => do
    let v ← ev.wordValue (cs.takeWhile Text.isWord) contexts
    let here ← Traced.ofExcept v.writtenOrNothing
    let rest ← ev.fillWords contexts (cs.dropWhile Text.isWord)
    pure (here.toList ++ rest)
  | c :: cs => do
    let rest ← ev.fillWords contexts cs
    pure (c :: rest)
termination_by cs => cs.length
decreasing_by
  · have := List.Sublist.length_le (List.dropWhile_sublist Text.isWord (l := cs))
    simp only [List.length_cons]
    omega
  · simp

/-- Segments as text, expressions in braces replaced by the text of their values. -/
def fillBraced (value : List Char → Traced Value) : List Segment → Traced (List Char)
  | [] => pure []
  | .plain c :: ss => do
    let rest ← fillBraced value ss
    pure (c :: rest)
  | .braced expr :: ss => do
    let v ← value expr
    let here ← Traced.ofExcept v.writtenOrNothing
    let rest ← fillBraced value ss
    pure (here.toList ++ rest)

/-- A string body with its placeholders filled in, given the values of expressions: those in
braces first, then words. -/
def interpolate (ev : Evaluator) (value : List Char → List Value → Traced Value)
    (body : List Char) (contexts : List Value) : Traced (List Char) := do
  let filled ← fillBraced (value · contexts) (segments body)
  ev.fillWords contexts filled

/-- The value of a body under a meaning, given the values of expressions inside it. -/
def apply (ev : Evaluator) (value : List Char → List Value → Traced Value) (m : Meaning)
    (body : List Char) (contexts : List Value) : Traced Value :=
  match m with
  | .path => resolve (String.ofList body) contexts
  | .uncalled => resolve (String.ofList body) contexts false
  | .existence => do
    let v ← resolve (String.ofList body) contexts
    pure (.bool !v.isUndefined)
  | .string => do
    let cs ← ev.interpolate value body contexts
    pure (.str (String.ofList cs))
  | .upper => do
    let cs ← ev.interpolate value body contexts
    pure (.str (Text.upper (String.ofList cs)))
  | .negation => do
    let v ← value body contexts
    pure (.bool !v.truth)
  | .reversed => value body contexts.reverse
  | .constant v => pure v
  | .verbatim => pure (.str (String.ofList body))
  | .contextCount => pure (.int contexts.length)

/-- The value of an expression. Expressions inside it are shorter, so the test before their
evaluation fails for none but a type that evaluates itself without being written out. -/
def valueOf (ev : Evaluator) (expr : List Char) (contexts : List Value) : Traced Value :=
  let inside (e : List Char) (cs : List Value) : Traced Value :=
    if e.length < expr.length then ev.valueOf e cs else throw .nestingTooDeep
  let (name?, body) := form expr
  let name := match name? with
    | some name => String.ofList name
    | none => "path"
  match ev.types.lookup name with
  | none => throw (.unknownType name)
  | some m => ev.apply inside m body (orEmpty contexts)
termination_by expr.length

/-- The value of an expression. -/
def value (ev : Evaluator) (expr : String) (contexts : List Value) : Traced Value :=
  ev.valueOf expr.toList contexts

end Evaluator

end AttrTemplates.Expr
