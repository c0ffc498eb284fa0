import AttrTemplates.Proofs.Expr.Lookups

/-!
# `AttrTemplates.Proofs.Expr.Choices`: alternatives and contexts are ordered choices

A bar between two paths is a choice, and so is a further context: what stands behind counts only if
what stands in front leads nowhere. Together the two laws say that contexts are searched one after
the other, and in each the alternatives, for any number of both.

It is the same with the operations that a search calls. `Recorded` is a search that keeps a list of
them, and comes to the same as the search itself (`resolveRecorded_outcome`). So what an operation
raises ends the search where it was called, and nothing behind a defined value is called at all.

* `alternatives_append` cuts a path at any bar: white space around bars belongs to no alternative,
  and trimming the whole path first makes no difference to that;
* `firstDefined_append` and `firstRecorded_calls_append` are the laws for lists of attempts;
* `choices_ordered` puts them together.
-/

set_option autoImplicit false

namespace AttrTemplates

namespace Expr

/-! ### Cutting paths -/

/-- The alternatives of a path are what stands between its bars. -/
theorem alternatives_eq (path : String) : alternatives path
    = ((Text.splitAt '|' path.toList).map Text.trim).map atoms := by
  have hbar : Text.isBlank '|' = false := by decide
  rw [← Text.map_trim_splitAt_trim hbar, List.map_map]
  rfl

/-- A bar between two paths is one between their alternatives. -/
theorem alternatives_append (p q : String) :
    alternatives (p ++ "|" ++ q) = alternatives p ++ alternatives q := by
  have htext : (p ++ "|" ++ q).toList = p.toList ++ '|' :: q.toList := by simp
  simp only [alternatives_eq, htext, Text.splitAt_append, List.map_append]

/-- The attempts at two paths in one context are those at the first and then those at the second. -/
theorem attempts_alternatives_append (p q : String) (c : Value) :
    attempts (p ++ "|" ++ q) [c] = attempts p [c] ++ attempts q [c] := by
  unfold attempts
  rw [alternatives_append]
  simp only [List.product_cons, List.nil_product, List.append_nil, List.map_append]

/-- The attempts at a path in more contexts come behind those in the first ones. -/
theorem attempts_contexts_append (path : String) (cs ds : List Value) :
    attempts path (cs ++ ds) = attempts path cs ++ attempts path ds :=
  List.flatMap_append

/-! ### Records of calls -/

/-- What a computation comes to, and the operations that it calls, in order. -/
structure Recorded (α : Type) where
  outcome : Except Failure α
  calls : List Value

namespace Recorded

variable {α β : Type}

/-- A computation that calls nothing. -/
def ofExcept (x : Except Failure α) : Recorded α := ⟨x, []⟩

/-- Calls an operation, and comes to what it gives. -/
def call (name : String) (parameters : List Parameter) (outcome : Except Failure Value) :
    Recorded Value :=
  ⟨outcome, [.operation name parameters outcome]⟩

/-- Recorded steps follow one another, and so do their calls. -/
instance : Monad Recorded where
  pure a := ofExcept (.ok a)
  bind x f :=
    match x.outcome with
    | .ok a => ⟨(f a).outcome, x.calls ++ (f a).calls⟩
    | .error e => ⟨.error e, x.calls⟩

/-- The outcome of a sequence does not depend on the calls. -/
theorem outcome_bind (x : Recorded α) (f : α → Recorded β) :
    (x >>= f).outcome = x.outcome >>= fun a => (f a).outcome := by
  obtain ⟨e | a, calls⟩ := x <;> rfl

/-- The calls of a sequence are those of both parts. -/
theorem calls_bind_of_ok {x : Recorded α} {a : α} (h : x.outcome = .ok a) (f : α → Recorded β) :
    (x >>= f).calls = x.calls ++ (f a).calls := by
  obtain ⟨outcome, calls⟩ := x
  cases h
  rfl

/-- A computation that fails is not gone on with. -/
theorem bind_of_error {x : Recorded α} {e : Failure} (h : x.outcome = .error e)
    (f : α → Recorded β) : x >>= f = ⟨.error e, x.calls⟩ := by
  obtain ⟨outcome, calls⟩ := x
  cases h
  rfl

end Recorded

/-- A step of a path, with the operation that it calls, if it calls one. -/
def stepRecorded (v : Value) (atom : String) (call : Bool) : Recorded Value :=
  match v.member? atom with
  | some (.operation name parameters outcome) =>
    if call && acceptsNoArguments parameters then .call name parameters outcome
    else .ofExcept (step v atom call)
  | _ => .ofExcept (step v atom call)

/-- Follows atoms, with a record of what is called. -/
def walkRecorded (callLast : Bool) : Value → List String → Recorded Value
  | v, [] => pure v
  | v, [atom] => stepRecorded v atom callLast
  | v, atom :: atoms => do
    let w ← stepRecorded v atom true
    if w.isUndefined then pure .undefined else walkRecorded callLast w atoms

/-- The first defined value among attempts, with a record of what is called. -/
def firstRecorded (callLast : Bool) : List (Value × List String) → Recorded Value
  | [] => pure .undefined
  | a :: as => do
    let v ← walkRecorded callLast a.1 a.2
    if v.isUndefined then firstRecorded callLast as else pure v

/-- The search for a path, with a record of what is called. -/
def resolveRecorded (path : String) (contexts : List Value) (callLast : Bool) : Recorded Value :=
  firstRecorded callLast (attempts path contexts)

/-- A step calls nothing but the operation that gives its value. -/
theorem stepRecorded_outcome (v : Value) (atom : String) (call : Bool) :
    (stepRecorded v atom call).outcome = step v atom call := by
  unfold stepRecorded
  split
  · rename_i name parameters outcome hmember
    split
    · rename_i hcalled
      obtain ⟨hcall, haccepts⟩ := Bool.and_eq_true_iff.mp hcalled
      unfold step
      rw [hmember]
      simp [memberStep, hcall, haccepts, Recorded.call]
    · rfl
  · rfl

/-- A walk comes to the same when its calls are recorded. -/
theorem walkRecorded_outcome (callLast : Bool) (v : Value) (as : List String) :
    (walkRecorded callLast v as).outcome = walk callLast v as := by
  induction as generalizing v with
  | nil => rfl
  | cons a as ih =>
    cases as with
    | nil => exact stepRecorded_outcome v a callLast
    | cons b bs =>
      rw [walkRecorded, walk, Recorded.outcome_bind, stepRecorded_outcome]
      · refine bind_congr fun w => ?_
        cases w.isUndefined with
        | true => rfl
        | false => exact ih w
      all_goals exact List.cons_ne_nil b bs

/-- A search comes to the same when its calls are recorded. -/
theorem firstRecorded_outcome (callLast : Bool) (as : List (Value × List String)) :
    (firstRecorded callLast as).outcome = firstDefined (fun a => walk callLast a.1 a.2) as := by
  induction as with
  | nil => rfl
  | cons a as ih =>
    rw [firstRecorded, firstDefined, Recorded.outcome_bind, walkRecorded_outcome]
    refine bind_congr fun v => ?_
    cases v.isUndefined with
    | true => exact ih
    | false => rfl

/-- Keeping a record changes nothing. -/
theorem resolveRecorded_outcome (path : String) (contexts : List Value) (callLast : Bool) :
    (resolveRecorded path contexts callLast).outcome
      = (resolve path contexts callLast).outcome.1 := by
  rw [resolve_outcome, firstContext_eq_firstDefined]
  exact firstRecorded_outcome callLast _

/-! ### Choices -/

/-- Whether a search found nothing, and did not fail either. -/
def leadsNowhere : Except Failure Value → Bool
  | .ok v => v.isUndefined
  | .error _ => false

/-- Attempts are made only if those in front of them lead nowhere. -/
theorem firstRecorded_calls_append (callLast : Bool) (as bs : List (Value × List String)) :
    (firstRecorded callLast (as ++ bs)).calls = (firstRecorded callLast as).calls
      ++ if leadsNowhere (firstRecorded callLast as).outcome
        then (firstRecorded callLast bs).calls else [] := by
  induction as with
  | nil => rfl
  | cons a as ih =>
    rw [List.cons_append, firstRecorded, firstRecorded]
    cases houtcome : (walkRecorded callLast a.1 a.2).outcome with
    | error e =>
      rw [Recorded.bind_of_error houtcome, Recorded.bind_of_error houtcome]
      exact (List.append_nil _).symm
    | ok v =>
      rw [Recorded.calls_bind_of_ok houtcome, Recorded.calls_bind_of_ok houtcome,
        Recorded.outcome_bind, houtcome, List.append_assoc]
      congr 1
      -- What decides about the rest is the value of the first attempt: a value that is undefined
      -- sends the search on, and then the induction hypothesis says what it calls.
      show (if v.isUndefined then _ else _ : Recorded Value).calls = _
        ++ if leadsNowhere (if v.isUndefined then _ else _ : Recorded Value).outcome then _ else _
      cases hv : v.isUndefined with
      | true => exact ih
      | false =>
        show [] = [] ++ if leadsNowhere (.ok v) then _ else []
        rw [leadsNowhere, hv]
        rfl

/-- A bar between paths, and a further context, are ordered choices, whether the operation at the
end of a path is called or not: the right side decides, and is looked at, only if the left side is
undefined. If the left side fails, that is the outcome, and what was called until then is all that
is called. The calls are those of a search that comes to the same. -/
theorem choices_ordered (callLast : Bool) :
    (∀ (p q : String) (c : Value),
      (resolve (p ++ "|" ++ q) [c] callLast).outcome.1 = (do
        let v ← (resolve p [c] callLast).outcome.1
        if v.isUndefined then (resolve q [c] callLast).outcome.1 else pure v) ∧
      (resolveRecorded (p ++ "|" ++ q) [c] callLast).calls
        = (resolveRecorded p [c] callLast).calls
          ++ if leadsNowhere (resolve p [c] callLast).outcome.1
            then (resolveRecorded q [c] callLast).calls else []) ∧
    (∀ (p : String) (xs ys : List Value),
      (resolve p (xs ++ ys) callLast).outcome.1 = (do
        let v ← (resolve p xs callLast).outcome.1
        if v.isUndefined then (resolve p ys callLast).outcome.1 else pure v) ∧
      (resolveRecorded p (xs ++ ys) callLast).calls
        = (resolveRecorded p xs callLast).calls
          ++ if leadsNowhere (resolve p xs callLast).outcome.1
            then (resolveRecorded p ys callLast).calls else []) ∧
    (∀ (p : String) (cs : List Value),
      (resolveRecorded p cs callLast).outcome = (resolve p cs callLast).outcome.1) := by
  simp only [← resolveRecorded_outcome, resolveRecorded, implies_true, and_true,
    attempts_alternatives_append, attempts_contexts_append, firstRecorded_calls_append]
  simp only [firstRecorded_outcome, firstDefined_append, implies_true, and_self]

end Expr

end AttrTemplates
