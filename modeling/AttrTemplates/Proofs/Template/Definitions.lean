import AttrTemplates.Proofs.Expr.Joined
import AttrTemplates.Proofs.Expr.Types
import AttrTemplates.Proofs.Template.Repeated
import AttrTemplates.Proofs.Template.Siblings

/-!
# `AttrTemplates.Proofs.Template.Definitions`: what a list of definitions makes

A list of definitions is written with the semicolons in its expressions doubled, and it comes apart
into the same definitions. Each of them is read as it was meant: the word in front of a name is one
for the scope only if a name follows, so any name will do where there is such a word, and any other
name where there is none. Then the definitions are made in this order. The contexts that one leaves
are those in which the expression of the next is evaluated, and the first one that fails ends it.

One character is in the way. Names are made of word characters, and the mark that represents a
doubled semicolon is such a character. A name that holds it comes back with a semicolon in its
place, so it is no name any more. `WrittenDefinition.read` tells what is read instead.

* `WrittenDefinition.parse?_argument` is about one definition, and
  `WrittenDefinition.arguments_listing` about the list;
* `Makes` says which contexts definitions lead to, and `Breaks` how one can fail;
* `makeDefinitions_append_run` makes those in front, by induction on `Makes`, and `makes_or_breaks`
  says that nothing else can happen than that all are made or one of them fails;
* `define_makes_written` puts the two sides together.
-/

set_option autoImplicit false

namespace AttrTemplates

open Xml Run

/-! ### Definitions as they are written -/

/-- A word in front of a definition that says which context the name is bound in. -/
inductive ScopeWord where
  | localScope
  | globalScope
  deriving DecidableEq, Repr

namespace ScopeWord

/-- How a word is written. -/
def text : ScopeWord → String
  | localScope => "local"
  | globalScope => "global"

/-- Words for a scope are letters. -/
theorem isAlpha_of_mem_text (k : ScopeWord) : ∀ c ∈ k.text.toList, c.isAlpha = true := by
  cases k <;> exact List.all_eq_true.mp (by decide)

/-- There are no blanks around them. -/
theorem isTrimmed_text (k : ScopeWord) : Text.IsTrimmed k.text.toList := by
  cases k <;> decide

/-- Letters may be in names, so such a word could be one. -/
theorem isVariableChar_of_mem_text (k : ScopeWord) :
    ∀ c ∈ k.text.toList, isVariableChar c = true := by
  cases k <;> exact List.all_eq_true.mp (by decide)

end ScopeWord

/-- A definition to be written down. Without a word for its scope its name must not be one. -/
structure WrittenDefinition where
  scope? : Option ScopeWord
  name : String
  expression : String
  name_ne : name ≠ ""
  isVariableChar_name : ∀ c ∈ name.toList, isVariableChar c = true
  name_ne_scope : scope? = none → ∀ k : ScopeWord, name ≠ k.text
  isTrimmed_expression : Text.IsTrimmed expression.toList
  unmarked_expression : Expr.mark ∉ expression.toList

namespace WrittenDefinition

/-- The word for the scope and the space behind it. -/
def scopeText (d : WrittenDefinition) : String := d.scope?.elim "" fun k => k.text ++ " "

/-- The definition that is meant. -/
def definition (d : WrittenDefinition) : Definition where
  isGlobal := d.scope? == some .globalScope
  name := d.name
  expression := d.expression

/-- A definition as it is written in a list, with the semicolons of its expression doubled. -/
def written (d : WrittenDefinition) : String :=
  d.scopeText ++ d.name ++ " " ++ String.ofList (Expr.doubled d.expression.toList)

/-- Definitions as a list. -/
def listing (ds : List WrittenDefinition) : String := "; ".intercalate (ds.map written)

/-- What a list gives back for a definition: marks in the name have become semicolons. -/
def argument (d : WrittenDefinition) : String :=
  d.scopeText ++ String.ofList (Expr.unmark d.name.toList) ++ " " ++ d.expression

/-- The definition that is read from it. Where a semicolon has come into the name, only a word for
the scope can be the name, and the rest is taken for the expression. -/
def read (d : WrittenDefinition) : Option Definition :=
  if Expr.mark ∈ d.name.toList then
    d.scope?.map fun k =>
      ⟨false, k.text, String.ofList (Expr.unmark d.name.toList) ++ " " ++ d.expression⟩
  else some d.definition

variable (d : WrittenDefinition)

/-- A definition is read as it is written unless its name holds the mark. -/
theorem read_eq_definition_iff : d.read = some d.definition ↔ Expr.mark ∉ d.name.toList := by
  unfold read
  split
  · rename_i hmark
    refine iff_of_false (fun h => ?_) (not_not_intro hmark)
    obtain ⟨k, -, hk⟩ := Option.map_eq_some_iff.mp h
    -- A word for a scope does not hold the mark.
    rw [definition, Definition.mk.injEq] at hk
    rw [← hk.2.1] at hmark
    exact absurd (k.isAlpha_of_mem_text _ hmark) (by decide)
  · rename_i hmark
    exact iff_of_true rfl hmark

/-- Definitions are read as they were meant just when no name holds the mark. -/
theorem map_read_eq_iff (ds : List WrittenDefinition) :
    ds.map read = (ds.map definition).map some ↔ ∀ d ∈ ds, Expr.mark ∉ d.name.toList := by
  rw [List.map_map, List.map_inj_left]
  exact forall₂_congr fun d _ => d.read_eq_definition_iff

/-! ### Reading one definition -/

/-- The characters of a name are no blanks, and neither is the semicolon that the mark turns into.
-/
theorem isBlank_of_mem_unmark_name : ∀ c ∈ Expr.unmark d.name.toList, Text.isBlank c = false := by
  intro c hc
  obtain ⟨b, hb, rfl⟩ := List.mem_map.mp hc
  split
  · decide
  · exact isBlank_of_isVariableChar (d.isVariableChar_name b hb)

/-- A name is not empty, mark or not. -/
theorem unmark_name_ne_nil : Expr.unmark d.name.toList ≠ [] := by
  simpa [Expr.unmark] using d.name_ne

/-- The name and the expression. -/
def named : List Char := Expr.unmark d.name.toList ++ ' ' :: d.expression.toList

/-- There are no blanks around a name and its expression. -/
theorem isTrimmed_named : Text.IsTrimmed d.named :=
  (Text.IsTrimmed.of_forall d.unmark_name_ne_nil d.isBlank_of_mem_unmark_name).append_space_cons
    d.isTrimmed_expression

/-- The name comes back if it does not hold the mark, and is no name otherwise. -/
theorem wordAndRest_named : wordAndRest isVariableChar d.named =
    if Expr.mark ∈ d.name.toList then none else some (d.name.toList, d.expression.toList) := by
  unfold named
  split
  · rename_i hmark
    exact wordAndRest_of_mem d.isBlank_of_mem_unmark_name (Expr.semicolon_mem_unmark hmark)
      (by decide) _
  · rename_i hmark
    rw [Expr.unmark_eq_self_iff.mpr hmark]
    exact wordAndRest_word (by simpa using d.name_ne) d.isVariableChar_name (by decide)
      d.isTrimmed_expression

/-- Without a word for the scope in front, the name is not such a word. -/
theorem unmark_name_ne (h : d.scope? = none) (k : ScopeWord) :
    Expr.unmark d.name.toList ≠ k.text.toList := by
  intro heq
  by_cases hmark : Expr.mark ∈ d.name.toList
  · have hsemicolon := Expr.semicolon_mem_unmark hmark
    rw [heq] at hsemicolon
    exact absurd (k.isAlpha_of_mem_text _ hsemicolon) (by decide)
  · rw [Expr.unmark_eq_self_iff.mpr hmark] at heq
    exact d.name_ne_scope h k (String.toList_inj.mp heq)

/-- What follows a word for a scope is read as that word and no other. -/
theorem afterKeyword_scope (k k' : ScopeWord) {expr : List Char} (hexpr : Text.IsTrimmed expr) :
    afterKeyword k.text (k'.text.toList ++ ' ' :: expr) = if k = k' then some expr else none := by
  split
  · rename_i heq
    rw [heq]
    exact afterKeyword_self k'.isTrimmed_text.ne_nil k'.isAlpha_of_mem_text hexpr
  · rename_i hne
    refine afterKeyword_of_ne
      (fun c hc => isBlank_of_isVariableChar (k'.isVariableChar_of_mem_text c hc)) ?_ hexpr
    revert hne
    cases k <;> cases k' <;> decide

/-- An argument is the word for its scope, if it has one, and the definition behind it. -/
theorem toList_argument : d.argument.toList = d.scopeText.toList ++ d.named := by
  simp [argument, named]

/-- There are no blanks around an argument. -/
theorem isTrimmed_argument : Text.IsTrimmed d.argument.toList := by
  rw [toList_argument, scopeText]
  cases d.scope? with
  | none => exact d.isTrimmed_named
  | some k =>
    rw [Option.elim_some, String.toList_append, List.append_assoc]
    exact k.isTrimmed_text.append_space_cons d.isTrimmed_named

/-- What a list gives back for a definition is read as a definition, though perhaps another. -/
theorem parse?_argument : Definition.parse? d.argument = d.read := by
  unfold Definition.parse?
  rw [d.isTrimmed_argument.trim_eq, toList_argument, scopeText]
  cases hscope : d.scope? with
  | none =>
    have htext : (none.elim "" fun k : ScopeWord => k.text ++ " ").toList ++ d.named = d.named :=
      rfl
    have hnone : ∀ k : ScopeWord, afterKeyword k.text d.named = none := fun k =>
      afterKeyword_of_ne d.isBlank_of_mem_unmark_name (d.unmark_name_ne hscope k)
        d.isTrimmed_expression
    have hlocal : afterKeyword "local" d.named = none := hnone .localScope
    have hglobal : afterKeyword "global" d.named = none := hnone .globalScope
    simp only [htext, hlocal, hglobal, d.wordAndRest_named, read, hscope]
    split <;> simp [definition, hscope]
  | some k =>
    have htext : ((some k).elim "" fun k => k.text ++ " ").toList ++ d.named
        = k.text.toList ++ ' ' :: d.named := by
      simp
    have hlocal : afterKeyword "local" (k.text.toList ++ ' ' :: d.named)
        = if .localScope = k then some d.named else none :=
      afterKeyword_scope .localScope k d.isTrimmed_named
    have hglobal : afterKeyword "global" (k.text.toList ++ ' ' :: d.named)
        = if .globalScope = k then some d.named else none :=
      afterKeyword_scope .globalScope k d.isTrimmed_named
    -- Where the name is none, the word for the scope is a name itself.
    have hword : wordAndRest isVariableChar (k.text.toList ++ ' ' :: d.named)
        = some (k.text.toList, d.named) :=
      wordAndRest_word k.isTrimmed_text.ne_nil k.isVariableChar_of_mem_text (by decide)
        d.isTrimmed_named
    have hnamed : String.ofList d.named
        = String.ofList (Expr.unmark d.name.toList) ++ " " ++ d.expression := by
      simp [named, String.ext_iff]
    simp only [htext, hlocal, hglobal, hword, read, hscope]
    cases k <;> by_cases hmark : Expr.mark ∈ d.name.toList <;>
      simp [definition, hscope, d.wordAndRest_named, hmark, hnamed]

/-! ### Reading a list -/

/-- In front of a definition there are letters and a space, and neither is a semicolon. -/
theorem isAlpha_of_mem_scopeText : ∀ c ∈ d.scopeText.toList, c.isAlpha = true ∨ c = ' ' := by
  intro c hc
  unfold scopeText at hc
  cases hscope : d.scope? with
  | none => simp [hscope] at hc
  | some k =>
    rw [hscope, Option.elim_some, String.toList_append, List.mem_append] at hc
    exact hc.imp (k.isAlpha_of_mem_text c) (by simp)

/-- A definition before the semicolons in it are doubled. -/
def chars : List Char := d.scopeText.toList ++ d.name.toList ++ ' ' :: d.expression.toList

/-- Where semicolons are doubled the characters are as they are written. -/
theorem doubled_chars : Expr.doubled d.chars = d.written.toList := by
  have hscope : ';' ∉ d.scopeText.toList := fun hmem => by
    simpa using d.isAlpha_of_mem_scopeText ';' hmem
  have hname : ';' ∉ d.name.toList := fun hmem =>
    absurd (d.isVariableChar_name _ hmem) (by decide)
  have hfront : ';' ∉ d.scopeText.toList ++ d.name.toList ++ [' '] := by
    simp [hscope, hname]
  rw [chars, List.append_cons, Expr.doubled_append_of_not_mem hfront]
  simp [written]

/-- Where they are single again the characters are those of the argument. -/
theorem unmark_chars : Expr.unmark d.chars = d.argument.toList := by
  have hscope : Expr.mark ∉ d.scopeText.toList := fun hmem =>
    absurd (d.isAlpha_of_mem_scopeText _ hmem) (by decide)
  have hspace : Expr.mark ∉ [' '] := by decide
  rw [chars, List.append_cons, Expr.unmark_append, Expr.unmark_append, Expr.unmark_append,
    Expr.unmark_eq_self_iff.mpr hscope, Expr.unmark_eq_self_iff.mpr hspace,
    Expr.unmark_eq_self_iff.mpr d.unmarked_expression]
  simp [argument]

/-- A list gives back what it was made of. -/
theorem arguments_listing (ds : List WrittenDefinition) :
    Expr.arguments (listing ds) = ds.map argument := by
  have hlist : (listing ds).toList = Expr.joined (ds.map chars) := by
    rw [listing, String.toList_intercalate, Expr.joined_eq_intercalate, List.map_map, List.map_map]
    exact congrArg _ (List.map_congr_left fun d _ => d.doubled_chars.symm)
  have htrimmed : ∀ cs ∈ ds.map chars, Text.IsTrimmed cs := by
    intro cs hcs
    obtain ⟨d, -, rfl⟩ := List.mem_map.mp hcs
    rw [← Expr.isTrimmed_unmark_iff, d.unmark_chars]
    exact d.isTrimmed_argument
  rw [Expr.arguments, hlist, Expr.argumentsOf_joined htrimmed, List.map_map, List.map_map]
  refine List.map_congr_left fun d _ => ?_
  rw [Function.comp_apply, Function.comp_apply, d.unmark_chars, String.ofList_toList]

example : (Expr.arguments "a string:1;;2; global b a").map Definition.parse?
    = [some ⟨false, "a", "string:1;2"⟩, some ⟨true, "b", "a"⟩] := by decide +kernel

end WrittenDefinition

/-! ### Making definitions -/

/-- The local and the global context. -/
structure Contexts where
  locals : Entries
  globals : Entries

/-- The contexts of an element. -/
def Site.contexts (site : Site) (s : RunState) : Contexts := ⟨site.locals, s.globals⟩

namespace Contexts

/-- The context for global names, or the one for local names. -/
def of (c : Contexts) (isGlobal : Bool) : Entries := if isGlobal then c.globals else c.locals

/-- The contexts with the name of a definition bound in the one that it is for. -/
def binding (c : Contexts) (d : Definition) (v : Value) : Contexts :=
  if d.isGlobal then { c with globals := c.globals.bind d.name v }
  else { c with locals := c.locals.bind d.name v }

/-- The context of its scope has the name that was bound. -/
theorem of_binding_self (c : Contexts) (d : Definition) (v : Value) :
    (c.binding d v).of d.isGlobal = (c.of d.isGlobal).bind d.name v := by
  unfold binding of
  cases d.isGlobal <;> rfl

/-- The other context is left as it was. -/
theorem of_binding_of_ne (c : Contexts) {d : Definition} {isGlobal : Bool}
    (h : d.isGlobal ≠ isGlobal) (v : Value) : (c.binding d v).of isGlobal = c.of isGlobal := by
  unfold binding of
  revert h
  cases d.isGlobal <;> cases isGlobal <;> simp

end Contexts

/-- Definitions made one after the other, with the notes that this leaves: each binds its name to
the value of its expression in the contexts as those before it have left them. -/
inductive Makes (ev : Expr.Evaluator) : Contexts → List Definition → List Event → Contexts → Prop
  | nil (c : Contexts) : Makes ev c [] [] c
  | cons {c c' : Contexts} {d : Definition} {ds : List Definition} {v : Value}
      {here notes : List Event} :
      ev.valueIn c.locals c.globals d.expression = (.ok v, here) →
      Makes ev (c.binding d v) ds notes c' → Makes ev c (d :: ds) (here ++ notes) c'

/-- An argument that fails in some contexts: it is no definition, or its expression fails. -/
inductive Breaks (ev : Expr.Evaluator) (c : Contexts) (argument : String) :
    Option Definition → Failure → List Event → Prop
  | malformed : Breaks ev c argument none (.malformedArgument "define" argument) []
  | fails {d : Definition} {f : Failure} {notes : List Event} :
      ev.valueIn c.locals c.globals d.expression = (.error f, notes) →
      Breaks ev c argument (some d) f notes

/-- The names that some definitions bind in one of the contexts. -/
def namesBound (isGlobal : Bool) (ds : List Definition) : List String :=
  (ds.filter (·.isGlobal == isGlobal)).map Definition.name

section

variable {ev : Expr.Evaluator}

namespace Makes

variable {c c' : Contexts} {ds : List Definition} {notes : List Event}

/-- Definitions leave all of a context alone that binding their names in it leaves alone. -/
theorem view_eq {β : Type} {isGlobal : Bool} (h : Makes ev c ds notes c') (view : Entries → β)
    (hview : ∀ name ∈ namesBound isGlobal ds, ∀ entries v,
      view (Entries.bind entries name v) = view entries) :
    view (c'.of isGlobal) = view (c.of isGlobal) := by
  induction h with
  | nil => rfl
  | @cons c c' d ds v here notes _ _ ih =>
    -- Only a definition for this context counts.
    by_cases hscope : d.isGlobal = isGlobal
    · subst hscope
      simp only [namesBound, List.filter_cons, beq_self_eq_true, if_true, List.map_cons,
        List.forall_mem_cons] at hview
      rw [ih hview.2, Contexts.of_binding_self, hview.1]
    · have hothers : namesBound isGlobal (d :: ds) = namesBound isGlobal ds := by
        simp [namesBound, hscope]
      rw [hothers] at hview
      rw [ih hview, Contexts.of_binding_of_ne c hscope]

/-- All other names stand for what they stood for, in both contexts. -/
theorem apartFrom (h : Makes ev c ds notes c') {isGlobal : Bool} {names : List String}
    (hnames : namesBound isGlobal ds ⊆ names) :
    Entries.apartFrom names (c'.of isGlobal) = Entries.apartFrom names (c.of isGlobal) :=
  h.view_eq (Entries.apartFrom names) fun _ hname => Entries.apartFrom_bind (hnames hname)

/-- What has not been bound stands for what it stood for. -/
theorem get?_of_not_mem (h : Makes ev c ds notes c') {isGlobal : Bool} {name : String}
    (hname : name ∉ namesBound isGlobal ds) :
    Entries.get? (c'.of isGlobal) name = Entries.get? (c.of isGlobal) name := by
  refine h.view_eq (Entries.get? · name) fun other hother entries v => ?_
  refine Entries.get?_bind_of_ne entries v ?_
  rintro rfl
  exact hname hother

/-- A name stands for the value of the last definition that binds it. -/
theorem get?_of_last {d : Definition} {before behind : List Definition}
    (h : Makes ev c (before ++ d :: behind) notes c')
    (hlast : d.name ∉ namesBound d.isGlobal behind) :
    ∃ reached passed v here, Makes ev c before passed reached ∧
      ev.valueIn reached.locals reached.globals d.expression = (.ok v, here) ∧
      Entries.get? (c'.of d.isGlobal) d.name = some v := by
  induction before generalizing c notes with
  | nil =>
    cases h with
    | cons hv h =>
      refine ⟨c, [], _, _, .nil c, hv, ?_⟩
      rw [h.get?_of_not_mem hlast, Contexts.of_binding_self, Entries.get?_bind_self]
  | cons b before ih =>
    cases h with
    | cons hv h =>
      obtain ⟨reached, passed, v, here, hmakes, hvalue, hget⟩ := ih h
      exact ⟨reached, _, v, here, .cons hv hmakes, hvalue, hget⟩

end Makes

/-- The state after definitions that have left some notes and lead to a global context. -/
def RunState.reaching (s : RunState) (notes : List Event) (globals : Entries) : RunState :=
  { s.noting notes with globals }

/-- Notes are added one after the other, and the last global context counts. -/
theorem RunState.reaching_reaching (s : RunState) (es fs : List Event) (g g' : Entries) :
    (s.reaching es g).reaching fs g' = s.reaching (es ++ fs) g' := by
  simp [reaching, RunState.noting]

/-- What the first of some definitions does: it fails, or binds its name for the others. -/
theorem makeDefinitions_cons_run (ev : Expr.Evaluator) (locals : Entries) (argument : String)
    (arguments : List String) (s : RunState) :
    (makeDefinitions ev locals (argument :: arguments)).run.run s
      = match Definition.parse? argument with
        | none => (.error (.malformedArgument "define" argument), s)
        | some d => match ev.valueIn locals s.globals d.expression with
          | (.error f, notes) => (.error f, s.noting notes)
          | (.ok v, notes) =>
            let c := Contexts.binding ⟨locals, s.globals⟩ d v
            (makeDefinitions ev c.locals arguments).run.run (s.reaching notes c.globals) := by
  rw [makeDefinitions, Run.run_bind]
  cases Definition.parse? argument with
  | none => rfl
  | some d =>
    show ((evaluateIn ev locals d.expression >>= fun v => _) : Run Entries).run.run s = _
    rw [Run.run_bind, evaluateIn_run]
    dsimp only
    rcases ev.valueIn locals s.globals d.expression with ⟨f | v, notes⟩
    · rfl
    · -- A global name goes through the state, a local one through the argument.
      dsimp only [Contexts.binding]
      cases d.isGlobal <;> rfl

/-- Definitions that can be made lead on to those behind them. -/
theorem makeDefinitions_append_run {before : List String} {ds : List Definition} {c c' : Contexts}
    {notes : List Event} (hread : before.map Definition.parse? = ds.map some)
    (h : Makes ev c ds notes c') (behind : List String) {s : RunState}
    (hs : s.globals = c.globals) : (makeDefinitions ev c.locals (before ++ behind)).run.run s
      = (makeDefinitions ev c'.locals behind).run.run (s.reaching notes c'.globals) := by
  induction h generalizing before s with
  | nil c =>
    obtain rfl := List.map_eq_nil_iff.mp hread
    rw [← hs]
    simp [RunState.reaching]
  | @cons c c' d ds v here notes hv _ ih =>
    obtain ⟨argument, before, rfl, hd, hds⟩ := List.map_eq_cons_iff.mp hread
    rw [List.cons_append, makeDefinitions_cons_run, hd, hs]
    simp only [hv]
    rw [ih hds rfl, RunState.reaching_reaching]

/-- Either all definitions can be made, or those before one that fails. -/
theorem makes_or_breaks (ev : Expr.Evaluator) (c : Contexts) (arguments : List String) :
    (∃ ds notes c', arguments.map Definition.parse? = ds.map some ∧ Makes ev c ds notes c') ∨
      ∃ before argument behind ds notes c' f here, arguments = before ++ argument :: behind ∧
        before.map Definition.parse? = ds.map some ∧ Makes ev c ds notes c' ∧
        Breaks ev c' argument (Definition.parse? argument) f here := by
  -- By induction on the arguments, for all contexts, since each definition is made in those that
  -- the definitions before it lead to.
  induction arguments generalizing c with
  | nil => exact .inl ⟨[], [], c, rfl, .nil c⟩
  | cons argument arguments ih =>
    cases hparse : Definition.parse? argument with
    | none =>
      have hbreaks : Breaks ev c argument (Definition.parse? argument)
          (.malformedArgument "define" argument) [] := by
        rw [hparse]
        exact .malformed
      exact .inr ⟨[], argument, arguments, [], [], c, _, [], rfl, rfl, .nil c, hbreaks⟩
    | some d =>
      rcases hv : ev.valueIn c.locals c.globals d.expression with ⟨f | v, here⟩
      · have hbreaks : Breaks ev c argument (Definition.parse? argument) f here := by
          rw [hparse]
          exact .fails hv
        exact .inr ⟨[], argument, arguments, [], [], c, f, here, rfl, rfl, .nil c, hbreaks⟩
      · -- The others are made, or one of them fails, in the contexts that the first leads to.
        rcases ih (c.binding d v) with ⟨ds, notes, c', hds, hmakes⟩
          | ⟨before, argument', behind, ds, notes, c', f, here', rfl, hds, hmakes, hbreaks⟩
        · exact .inl ⟨d :: ds, here ++ notes, c', by simp [hparse, hds], .cons hv hmakes⟩
        · exact .inr ⟨argument :: before, argument', behind, d :: ds, here ++ notes, c', f, here',
            rfl, by simp [hparse, hds], .cons hv hmakes, hbreaks⟩

/-- Definitions are made just when each has its form and its expression a value. -/
theorem makeDefinitions_run_of_makes {arguments : List String} {ds : List Definition}
    {c : Contexts} {locals : Entries} {notes : List Event} {s : RunState}
    (hread : arguments.map Definition.parse? = ds.map some)
    (h : Makes ev ⟨locals, s.globals⟩ ds notes c) :
    (makeDefinitions ev locals arguments).run.run s
      = (.ok c.locals, s.reaching notes c.globals) := by
  have happend := makeDefinitions_append_run hread h [] rfl
  rw [List.append_nil] at happend
  exact happend

/-- An argument behind some that are made may fail, in the contexts that those have left. -/
theorem makeDefinitions_run_of_breaks {before behind : List String} {argument : String}
    {ds : List Definition} {c : Contexts} {locals : Entries} {notes here : List Event} {f : Failure}
    {s : RunState} (hread : before.map Definition.parse? = ds.map some)
    (h : Makes ev ⟨locals, s.globals⟩ ds notes c)
    (hbreaks : Breaks ev c argument (Definition.parse? argument) f here) :
    (makeDefinitions ev locals (before ++ argument :: behind)).run.run s
      = (.error f, s.reaching (notes ++ here) c.globals) := by
  rw [makeDefinitions_append_run hread h (argument :: behind) rfl, makeDefinitions_cons_run]
  generalize Definition.parse? argument = read at hbreaks
  cases hbreaks with
  | malformed => rw [List.append_nil]
  | fails hv =>
    have hv' : ev.valueIn c.locals (s.reaching notes c.globals).globals _ = _ := hv
    simp only [hv']
    rw [← RunState.reaching_reaching s notes here c.globals]
    rfl

/-- Definitions are made if all of them can be read and no expression fails, and then the contexts
are those of `Makes`. -/
theorem makeDefinitions_gives_iff {locals locals' : Entries} {arguments : List String}
    {s s' : RunState} :
    (makeDefinitions ev locals arguments).Gives s locals' s' ↔ ∃ ds notes c,
      arguments.map Definition.parse? = ds.map some ∧ Makes ev ⟨locals, s.globals⟩ ds notes c ∧
        locals' = c.locals ∧ s' = s.reaching notes c.globals := by
  constructor
  · intro h
    rcases makes_or_breaks ev ⟨locals, s.globals⟩ arguments with ⟨ds, notes, c, hds, hmakes⟩
      | ⟨before, argument, behind, ds, notes, c, f, here, rfl, hds, hmakes, hbreaks⟩
    · have hrun := h.symm.trans (makeDefinitions_run_of_makes hds hmakes)
      obtain ⟨hlocals, hs⟩ := Prod.mk.inj hrun
      exact ⟨ds, notes, c, hds, hmakes, Except.ok.inj hlocals, hs⟩
    · cases h.symm.trans (makeDefinitions_run_of_breaks hds hmakes hbreaks)
  · rintro ⟨ds, notes, c, hds, hmakes, rfl, rfl⟩
    exact makeDefinitions_run_of_makes hds hmakes

/-- Definitions fail at one of them: the ones before are made, and this one cannot be read or has an
expression that fails. -/
theorem makeDefinitions_fails_iff {locals : Entries} {arguments : List String} {f : Failure}
    {s s' : RunState} :
    (makeDefinitions ev locals arguments).run.run s = (.error f, s')
      ↔ ∃ before argument behind ds notes c here, arguments = before ++ argument :: behind ∧
        before.map Definition.parse? = ds.map some ∧
        Makes ev ⟨locals, s.globals⟩ ds notes c ∧
        Breaks ev c argument (Definition.parse? argument) f here ∧
        s' = s.reaching (notes ++ here) c.globals := by
  constructor
  · intro h
    rcases makes_or_breaks ev ⟨locals, s.globals⟩ arguments with ⟨ds, notes, c, hds, hmakes⟩
      | ⟨before, argument, behind, ds, notes, c, f', here, rfl, hds, hmakes, hbreaks⟩
    · cases h.symm.trans (makeDefinitions_run_of_makes hds hmakes)
    · have hrun := h.symm.trans (makeDefinitions_run_of_breaks hds hmakes hbreaks)
      obtain ⟨hf, rfl⟩ := Prod.mk.inj hrun
      obtain rfl := Except.error.inj hf
      exact ⟨before, argument, behind, ds, notes, c, here, rfl, hds, hmakes, hbreaks, rfl⟩
  · rintro ⟨before, argument, behind, ds, notes, c, here, rfl, hds, hmakes, hbreaks, rfl⟩
    exact makeDefinitions_run_of_breaks hds hmakes hbreaks

/-! ### Lists of written definitions -/

/-- The directive fails where its definitions do. -/
theorem define_fails_iff {raw : String} {site : Site} {s s' : RunState} {f : Failure} :
    (define ev raw site).run.run s = (.error f, s')
      ↔ (makeDefinitions ev site.locals (Expr.arguments raw)).run.run s = (.error f, s') := by
  rw [define, Run.run_bind]
  rcases (makeDefinitions ev site.locals (Expr.arguments raw)).run.run s with ⟨f' | locals, t⟩
  · constructor <;> (rintro ⟨⟩; rfl)
  · constructor <;> rintro ⟨⟩

/-- A list of definitions means its definitions, in order. Where all of them are read and have
values, they are made; otherwise those in front of the first that is not are made, and nothing else.
They are read as they were written just when no name holds the mark. In the contexts that are
reached, whether or not it was the end, every other name stands for what it stood for, and a name
stands for the value of the last definition that binds it there. -/
theorem define_makes_written (ev : Expr.Evaluator) (ds : List WrittenDefinition) (site : Site)
    (s : RunState) :
    (∀ reply s', (define ev (WrittenDefinition.listing ds) site).Gives s reply s' ↔
      ∃ bs notes c, ds.map WrittenDefinition.read = bs.map some ∧
        Makes ev (site.contexts s) bs notes c ∧
        reply = .stays site.element c.locals ∧ s' = s.reaching notes c.globals) ∧
    (∀ f s', (define ev (WrittenDefinition.listing ds) site).run.run s = (.error f, s') ↔
      ∃ before d behind bs notes c here, ds = before ++ d :: behind ∧
        before.map WrittenDefinition.read = bs.map some ∧ Makes ev (site.contexts s) bs notes c ∧
        Breaks ev c d.argument d.read f here ∧ s' = s.reaching (notes ++ here) c.globals) ∧
    (ds.map WrittenDefinition.read = (ds.map WrittenDefinition.definition).map some
      ↔ ∀ d ∈ ds, Expr.mark ∉ d.name.toList) ∧
    (∀ bs notes c isGlobal, Makes ev (site.contexts s) bs notes c →
      Entries.apartFrom (namesBound isGlobal bs) (c.of isGlobal)
        = Entries.apartFrom (namesBound isGlobal bs) ((site.contexts s).of isGlobal) ∧
      ∀ before d behind, bs = before ++ d :: behind → d.isGlobal = isGlobal →
        d.name ∉ namesBound isGlobal behind →
        ∃ reached passed v here, Makes ev (site.contexts s) before passed reached ∧
          ev.valueIn reached.locals reached.globals d.expression = (.ok v, here) ∧
          Entries.get? (c.of isGlobal) d.name = some v) := by
  have hread : ∀ ds : List WrittenDefinition,
      (ds.map WrittenDefinition.argument).map Definition.parse?
        = ds.map WrittenDefinition.read := by
    intro ds
    rw [List.map_map]
    exact List.map_congr_left fun d _ => d.parse?_argument
  refine ⟨fun reply s' => ?_, fun f s' => ?_, WrittenDefinition.map_read_eq_iff ds, ?_⟩
  · rw [define_gives_iff, WrittenDefinition.arguments_listing]
    simp only [makeDefinitions_gives_iff, hread]
    constructor
    · rintro ⟨_, ⟨bs, notes, c, hbs, hmakes, rfl, rfl⟩, rfl⟩
      exact ⟨bs, notes, c, hbs, hmakes, rfl, rfl⟩
    · rintro ⟨bs, notes, c, hbs, hmakes, rfl, rfl⟩
      exact ⟨c.locals, ⟨bs, notes, c, hbs, hmakes, rfl, rfl⟩, rfl⟩
  · rw [define_fails_iff, WrittenDefinition.arguments_listing, makeDefinitions_fails_iff]
    constructor
    · rintro ⟨_, _, _, bs, notes, c, here, hsplit, hbs, hmakes, hbreaks, rfl⟩
      -- The argument that fails is that of a written definition, and so are those before it.
      obtain ⟨before, rest, rfl, rfl, hrest⟩ := List.map_eq_append_iff.mp hsplit
      obtain ⟨d, behind, rfl, rfl, rfl⟩ := List.map_eq_cons_iff.mp hrest
      rw [hread] at hbs
      rw [d.parse?_argument] at hbreaks
      exact ⟨before, d, behind, bs, notes, c, here, rfl, hbs, hmakes, hbreaks, rfl⟩
    · rintro ⟨before, d, behind, bs, notes, c, here, rfl, hbs, hmakes, hbreaks, rfl⟩
      refine ⟨before.map WrittenDefinition.argument, d.argument,
        behind.map WrittenDefinition.argument, bs, notes, c, here, by simp, ?_, hmakes, ?_, rfl⟩
      · rw [hread, hbs]
      · rw [d.parse?_argument]
        exact hbreaks
  · intro bs notes c isGlobal hmakes
    refine ⟨hmakes.apartFrom (List.Subset.refl _), ?_⟩
    rintro before d behind rfl rfl hlast
    exact hmakes.get?_of_last hlast

/-- The mark is a letter, a cuneiform one. -/
theorem isWord_mark : Text.isWord Expr.mark = true := by
  have hascii : ¬ Expr.mark.toNat < 0x80 := by decide
  unfold Text.isWord
  rw [if_neg hascii, ← Array.any_toList]
  exact List.any_eq_true.mpr ⟨(0x12000, 0x12399), by decide +kernel, by decide⟩

/-- A definition of a name that is the mark. -/
def definitionOfMark : WrittenDefinition where
  scope? := none
  name := String.singleton Expr.mark
  expression := "string:x"
  name_ne := by decide
  isVariableChar_name := by simp [isVariableChar, isWord_mark]
  name_ne_scope := by
    rintro - k
    cases k <;> decide
  isTrimmed_expression := by decide
  unmarked_expression := by decide

/-- It is refused, though its expression has a value wherever it is evaluated. -/
theorem definition_of_mark_refused :
    (∀ locals globals, Expr.Evaluator.standard.valueIn locals globals definitionOfMark.expression
      = (.ok (.str "x"), [])) ∧
    ∀ site s, (define .standard (WrittenDefinition.listing [definitionOfMark]) site).run.run s
      = (.error (.malformedArgument "define" "; string:x"), s) := by
  -- The expression itself is fine: it has a value in every context.
  refine ⟨fun locals globals => ?_, fun site s => ?_⟩
  · have htype : Expr.typeOf "string:x".toList = "string" := by decide
    have hform : (Expr.form "string:x".toList).2 = ['x'] := by decide
    have hbody : ∀ value contexts,
        Expr.Evaluator.standard.interpolate value ['x'] contexts = pure ['x'] := fun value =>
      Expr.Evaluator.interpolate_of_not_mem _ value (by decide)
    have hmeaning : Expr.Evaluator.standard.types.lookup "string" = some .string := rfl
    rw [show definitionOfMark.expression = "string:x" from rfl, Expr.Evaluator.valueIn,
      Expr.Evaluator.value, Expr.Evaluator.valueOf_eq, htype, hform]
    simp only [hmeaning, Expr.Evaluator.apply, hbody, pure_bind]
    rfl
  · -- Its name is what cannot be read, since the mark in it comes back as a semicolon.
    have hread : definitionOfMark.read = none := if_pos (by decide)
    have hargument : definitionOfMark.argument = "; string:x" := by decide
    rw [define_fails_iff, WrittenDefinition.arguments_listing, List.map_singleton,
      makeDefinitions_cons_run, WrittenDefinition.parse?_argument, hread, hargument]

end

end AttrTemplates
