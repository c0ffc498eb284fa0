import AttrTemplates.Proofs.Run
import AttrTemplates.Template.Directives

/-!
# `AttrTemplates.Proofs.Expr.Notes`: what evaluation leaves behind

The value of an expression depends on nothing but the expression and the contexts. All that its
evaluation leaves behind are notes of paths that were defined nowhere, and they are added behind
the notes that were there.

* `Traced.Steady` says this of a computation, and `Expr.Evaluator.value_steady` that it holds of the
  value of every expression;
* `evaluateIn_gives_iff` is what later proofs use: evaluation as a step of processing.
-/

set_option autoImplicit false

namespace AttrTemplates

namespace Traced

variable {α β : Type}

/-- A computation does not read the notes: it adds its own, all of them about paths. -/
structure Steady (t : Traced α) : Prop where
  run_eq : ∀ events, t.run.run events = (t.outcome.1, events ++ t.outcome.2)
  lookups : ∀ e ∈ t.outcome.2, e.isLookup = true

/-- A result that is known beforehand notes nothing. -/
theorem steady_pure (a : α) : (pure a : Traced α).Steady where
  run_eq events := by
    show (_, events) = (_, events ++ [])
    rw [List.append_nil]
    rfl
  lookups e h := nomatch h

/-- A failure notes nothing. -/
theorem steady_throw (f : Failure) : (throw f : Traced α).Steady where
  run_eq events := by
    show (_, events) = (_, events ++ [])
    rw [List.append_nil]
    rfl
  lookups e h := nomatch h

/-- A computation without notes notes nothing. -/
theorem steady_ofExcept (x : Except Failure α) : (ofExcept x).Steady := by
  cases x with
  | ok a => exact steady_pure a
  | error f => exact steady_throw f

/-- An undefined path is noted, whatever has been noted before. -/
theorem steady_note_undefinedPath (path : String) (contexts : Nat) :
    (note (.undefinedPath path contexts)).Steady where
  run_eq _ := rfl
  lookups e h := by
    rw [List.mem_singleton.mp h]
    rfl

/-- What a failed first computation, or a successful one, makes of a sequence of two. -/
theorem run_bind (t : Traced α) (f : α → Traced β) (events : List Event) :
    (t >>= f).run.run events = match t.run.run events with
      | (.ok a, events') => (f a).run.run events'
      | (.error e, events') => (.error e, events') := by
  show (ExceptT.bindCont f (t.run.run events).1) (t.run.run events).2 = _
  rcases t.run.run events with ⟨a | a, events'⟩ <;> rfl

/-- Steady steps follow one another. -/
theorem Steady.bind {t : Traced α} {f : α → Traced β} (ht : t.Steady) (hf : ∀ a, (f a).Steady) :
    (t >>= f).Steady := by
  rcases h : t.outcome with ⟨x, new⟩
  have hrun : ∀ events, t.run.run events = (x, events ++ new) := fun events => by
    rw [ht.run_eq, h]
  have hnew : ∀ e ∈ new, e.isLookup = true := fun e he => ht.lookups e (by rw [h]; exact he)
  -- What `t` does is known on the empty list of events. That it is steady carries this to any list,
  -- and the events of `f` go behind those of `t`.
  cases x with
  | error e =>
    have hout : (t >>= f).outcome = (.error e, new) := by
      show (t >>= f).run.run [] = _
      rw [run_bind, hrun]
      rfl
    refine ⟨fun events => ?_, fun e he => hnew e (by rw [hout] at he; exact he)⟩
    rw [run_bind, hrun, hout]
  | ok a =>
    have hout : (t >>= f).outcome = ((f a).outcome.1, new ++ (f a).outcome.2) := by
      show (t >>= f).run.run [] = _
      rw [run_bind, hrun]
      exact (hf a).run_eq new
    refine ⟨fun events => ?_, fun e he => ?_⟩
    · rw [run_bind, hrun, hout]
      show (f a).run.run (events ++ new) = _
      rw [(hf a).run_eq, List.append_assoc]
    · rw [hout] at he
      rcases List.mem_append.mp he with he | he
      · exact hnew e he
      · exact (hf a).lookups e he

/-- What comes of a sequence of two computations does not depend on what the first has noted. -/
theorem outcome_bind (t : Traced α) {f : α → Traced β} (hf : ∀ a, (f a).Steady) :
    (t >>= f).outcome.1 = t.outcome.1 >>= fun a => (f a).outcome.1 := by
  unfold outcome
  rw [run_bind]
  rcases t.run.run [] with ⟨e | a, events⟩
  · rfl
  · show ((f a).run.run events).1 = _
    rw [(hf a).run_eq]
    rfl

/-- A computation without notes comes to what it does on its own. -/
theorem outcome_ofExcept (x : Except Failure α) : (ofExcept x).outcome.1 = x := by
  cases x <;> rfl

end Traced

namespace Expr

open Traced

/-- A look-up notes at most its own path. -/
theorem resolve_steady (path : String) (contexts : List Value) (callLast : Bool) :
    (resolve path contexts callLast).Steady := by
  unfold resolve
  refine (steady_ofExcept _).bind fun v => ?_
  split
  · exact (steady_note_undefinedPath _ _).bind fun _ => steady_pure v
  · exact steady_pure v

namespace Evaluator

/-- A word is looked up as a path. -/
theorem wordValue_steady (ev : Evaluator) (word : List Char) (contexts : List Value) :
    (ev.wordValue word contexts).Steady := by
  unfold wordValue
  split
  · exact steady_throw _
  · exact resolve_steady _ _ _
  · exact resolve_steady _ _ _
  · exact (resolve_steady _ _ _).bind fun _ => steady_pure _
  · exact steady_pure _
  · exact steady_pure _
  · exact steady_pure _
  · exact steady_pure _
  · exact steady_pure _
  · exact steady_throw _
  · exact steady_throw _

/-- Words are filled in from left to right, by induction on the rounds. -/
theorem fillWords_steady (ev : Evaluator) (contexts : List Value) (cs : List Char) :
    (ev.fillWords contexts cs).Steady := by
  fun_induction fillWords ev contexts cs with
  | case1 => exact steady_pure _
  | case2 cs ih =>
    exact (wordValue_steady ev _ _).bind fun _ =>
      (steady_ofExcept _).bind fun _ => ih.bind fun _ => steady_pure _
  | case3 c cs _ ih => exact ih.bind fun _ => steady_pure _

/-- Braces are filled in from left to right. -/
theorem fillBraced_steady {value : List Char → Traced Value} (h : ∀ e, (value e).Steady)
    (ss : List Segment) : (fillBraced value ss).Steady := by
  induction ss with
  | nil => exact steady_pure _
  | cons seg ss ih =>
    cases seg with
    | plain c => exact ih.bind fun _ => steady_pure _
    | braced e =>
      exact (h e).bind fun _ => (steady_ofExcept _).bind fun _ => ih.bind fun _ => steady_pure _

/-- A string has its braces filled in and then its words. -/
theorem interpolate_steady (ev : Evaluator) {value : List Char → List Value → Traced Value}
    (h : ∀ e cs, (value e cs).Steady) (body : List Char) (contexts : List Value) :
    (ev.interpolate value body contexts).Steady :=
  (fillBraced_steady (fun e => h e contexts) _).bind fun _ => fillWords_steady ev contexts _

/-- Each kind of expression looks up, fills in, or asks for the value of another expression. -/
theorem apply_steady (ev : Evaluator) {value : List Char → List Value → Traced Value}
    (h : ∀ e cs, (value e cs).Steady) (m : Meaning) (body : List Char) (contexts : List Value) :
    (ev.apply value m body contexts).Steady := by
  cases m with
  | path => exact resolve_steady _ _ _
  | uncalled => exact resolve_steady _ _ _
  | existence => exact (resolve_steady _ _ _).bind fun _ => steady_pure _
  | string => exact (interpolate_steady ev h _ _).bind fun _ => steady_pure _
  | upper => exact (interpolate_steady ev h _ _).bind fun _ => steady_pure _
  | negation => exact (h _ _).bind fun _ => steady_pure _
  | reversed => exact h _ _
  | constant v => exact steady_pure _
  | verbatim => exact steady_pure _
  | contextCount => exact steady_pure _

/-- A type that there is not is a failure, and any other is steady if the evaluation inside is. -/
private theorem applyNamed_steady (ev : Evaluator) {value : List Char → List Value → Traced Value}
    (h : ∀ e cs, (value e cs).Steady) (name : String) (body : List Char) (contexts : List Value) :
    (match ev.types.lookup name with
      | none => throw (.unknownType name)
      | some m => ev.apply value m body contexts : Traced Value).Steady := by
  split
  · exact steady_throw _
  · exact apply_steady ev h _ _ _

/-- By recursion on the expression: an expression in it is shorter. -/
theorem valueOf_steady (ev : Evaluator) (expr : List Char) (contexts : List Value) :
    (ev.valueOf expr contexts).Steady := by
  -- Inside an expression only shorter ones are evaluated.
  induction hn : expr.length using Nat.strongRecOn generalizing expr contexts with
  | _ n ih =>
    have hinside : ∀ e cs, (if e.length < expr.length then ev.valueOf e cs
        else throw .nestingTooDeep : Traced Value).Steady := fun e cs => by
      split
      · exact ih e.length (by omega) e cs rfl
      · exact steady_throw _
    rw [valueOf]
    exact applyNamed_steady ev hinside _ _ _

/-- Evaluation only adds notes about paths, and reads none. -/
theorem value_steady (ev : Evaluator) (expr : String) (contexts : List Value) :
    (ev.value expr contexts).Steady :=
  valueOf_steady ev expr.toList contexts

/-- The value of an expression in a local and a global context, the local one first, and the
notes that finding it leaves. -/
def valueIn (ev : Evaluator) (locals globals : Entries) (expression : String) :
    Except Failure Value × List Event :=
  (ev.value expression [.map locals, .map globals]).outcome

/-- What is noted while an expression is evaluated is all about look-ups. -/
theorem isLookup_of_valueIn {ev : Evaluator} {locals globals : Entries} {expression : String}
    {x : Except Failure Value} {notes : List Event}
    (h : ev.valueIn locals globals expression = (x, notes)) : ∀ e ∈ notes, e.isLookup = true := by
  intro e he
  refine (value_steady ev expression [.map locals, .map globals]).lookups e ?_
  rw [show (ev.value expression [.map locals, .map globals]).outcome = (x, notes) from h]
  exact he

end Evaluator

end Expr

open Run

/-- Evaluating an expression leads to its value or to the failure to find one, and adds the notes
that looking for it leaves. -/
theorem evaluateIn_run (ev : Expr.Evaluator) (locals : Entries) (expression : String)
    (s : RunState) : (evaluateIn ev locals expression).run.run s
      = ((ev.valueIn locals s.globals expression).1,
        s.noting (ev.valueIn locals s.globals expression).2) := by
  have hrun := (Expr.Evaluator.value_steady ev expression [.map locals, .map s.globals]).run_eq
    s.events
  show (let (a, events) := (ev.value expression [.map locals, .map s.globals]).run.run s.events
    (a, { s with events })) = _
  rw [hrun]
  rfl

/-- It succeeds just when there is a value. -/
theorem evaluateIn_gives_iff {ev : Expr.Evaluator} {locals : Entries} {expression : String}
    {s s' : RunState} {v : Value} :
    (evaluateIn ev locals expression).Gives s v s' ↔ ∃ notes,
      ev.valueIn locals s.globals expression = (.ok v, notes) ∧ s' = s.noting notes := by
  unfold Gives
  rw [evaluateIn_run]
  constructor
  · intro h
    obtain ⟨hv, hs⟩ := Prod.mk.inj h
    exact ⟨_, Prod.ext hv rfl, hs.symm⟩
  · rintro ⟨notes, hv, rfl⟩
    rw [hv]

/-- So a state stays calm where an expression is evaluated. -/
theorem calm_of_evaluateIn {ev : Expr.Evaluator} {locals : Entries} {expression : String}
    {s s' : RunState} {v : Value} (h : (evaluateIn ev locals expression).Gives s v s') :
    s.Calm s' := by
  obtain ⟨notes, hv, rfl⟩ := evaluateIn_gives_iff.mp h
  exact ⟨rfl, rfl, notes, rfl, Expr.Evaluator.isLookup_of_valueIn hv⟩

end AttrTemplates
