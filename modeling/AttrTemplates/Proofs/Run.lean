import AttrTemplates.Template.Language

/-!
# `AttrTemplates.Proofs.Run`: successful steps of processing

A `Run` is a state machine that may fail. Nearly all theorems about it are about runs that
succeed, so they are stated with one relation: `r.Gives s a s'` says that `r`, started in `s`,
succeeds with the result `a` and leaves the state `s'`.

* `Run.gives_bind_iff` takes a sequence of steps apart and puts it together again;
* the other `gives_..._iff` say what each basic step can do.

With them every directive gets one lemma that tells all it can do, and later proofs do not open
the monad any more.

Most steps touch little of the state. `RunState.Calm s s'` says that between two states nothing
happened but that prefixes were made up and paths looked up.
-/

set_option autoImplicit false

namespace AttrTemplates

namespace Run

variable {α β : Type}

/-- A step of processing succeeds from a state, with a result and the state it leads to. -/
def Gives (r : Run α) (s : RunState) (a : α) (s' : RunState) : Prop :=
  r.run.run s = (.ok a, s')

/-- A step gives one result at most. -/
theorem Gives.unique {r : Run α} {s s₁ s₂ : RunState} {a₁ a₂ : α} (h₁ : r.Gives s a₁ s₁)
    (h₂ : r.Gives s a₂ s₂) : a₁ = a₂ ∧ s₁ = s₂ := by
  have h : (Except.ok (ε := Failure) a₁, s₁) = (.ok a₂, s₂) := h₁.symm.trans h₂
  cases h
  exact ⟨rfl, rfl⟩

/-- A result that is given at once leaves the state as it was. -/
theorem gives_pure_iff {a b : α} {s s' : RunState} :
    (pure a : Run α).Gives s b s' ↔ b = a ∧ s' = s := by
  constructor
  · intro h
    cases h
    exact ⟨rfl, rfl⟩
  · rintro ⟨rfl, rfl⟩
    rfl

/-- A step that fails gives nothing. -/
theorem gives_throw_iff {f : Failure} {a : α} {s s' : RunState} :
    (throw f : Run α).Gives s a s' ↔ False := by
  constructor
  · intro h
    cases h
  · exact False.elim

/-- What a failed first step, or a successful one, makes of a sequence of two. -/
theorem run_bind (r : Run α) (f : α → Run β) (s : RunState) :
    (r >>= f).run.run s = match r.run.run s with
      | (.ok a, s') => (f a).run.run s'
      | (.error e, s') => (.error e, s') := by
  change (ExceptT.bind r f).run.run s = _
  show (ExceptT.bindCont f (r.run.run s).1) (r.run.run s).2 = _
  rcases r.run.run s with ⟨a | a, s'⟩ <;> rfl

/-- A sequence of two steps succeeds just when both do, one after the other. -/
theorem gives_bind_iff {r : Run α} {f : α → Run β} {s s'' : RunState} {b : β} :
    (r >>= f).Gives s b s'' ↔ ∃ a s', r.Gives s a s' ∧ (f a).Gives s' b s'' := by
  unfold Gives
  rw [run_bind]
  constructor
  · intro h
    rcases hr : r.run.run s with ⟨x, s'⟩
    rw [hr] at h
    cases x with
    | error e => cases h
    | ok a => exact ⟨a, s', rfl, h⟩
  · rintro ⟨a, s', hr, hf⟩
    rw [hr]
    exact hf

/-- A look at the state gives it and leaves it. -/
theorem gives_get_iff {s t s' : RunState} :
    (get : Run RunState).Gives s t s' ↔ t = s ∧ s' = s := by
  constructor
  · intro h
    cases h
    exact ⟨rfl, rfl⟩
  · rintro ⟨rfl, rfl⟩
    rfl

/-- A new state takes the place of the old one. -/
theorem gives_set_iff {s t s' : RunState} {u : PUnit} :
    (set t : Run PUnit).Gives s u s' ↔ s' = t := by
  constructor
  · intro h
    cases h
    rfl
  · rintro rfl
    rfl

/-- A change takes the place of the state it is made of. -/
theorem gives_modify_iff {f : RunState → RunState} {s s' : RunState} {u : PUnit} :
    (modify f : Run PUnit).Gives s u s' ↔ s' = f s := by
  constructor
  · intro h
    cases h
    rfl
  · rintro rfl
    rfl

/-- A computation that only may fail leaves the state alone. -/
theorem gives_lift_iff {x : Except Failure α} {s s' : RunState} {a : α} :
    (liftM x : Run α).Gives s a s' ↔ x = .ok a ∧ s' = s := by
  constructor
  · intro h
    cases x with
    | error e => cases h
    | ok b =>
      cases h
      exact ⟨rfl, rfl⟩
  · rintro ⟨rfl, rfl⟩
    rfl

/-- A step of processing succeeds from a state. -/
def Succeeds (r : Run α) (s : RunState) : Prop := (r.run.run s).1.isOk = true

/-- Whether a step succeeds is decided by running it. -/
instance (r : Run α) (s : RunState) : Decidable (r.Succeeds s) :=
  inferInstanceAs (Decidable ((r.run.run s).1.isOk = true))

/-- A step succeeds if it gives something. -/
theorem succeeds_iff {r : Run α} {s : RunState} : r.Succeeds s ↔ ∃ a s', r.Gives s a s' := by
  unfold Succeeds Gives
  rcases r.run.run s with ⟨x, s'⟩
  cases x with
  | error e =>
    constructor
    · intro h
      cases h
    · rintro ⟨a, s'', h⟩
      cases h
  | ok a => exact ⟨fun _ => ⟨a, s', rfl⟩, fun _ => rfl⟩

/-- What shows of the result when a step is run shows of what it gives. -/
theorem exists_gives_of_shown {r : Run α} {s : RunState} {shown : α → β} {b : β}
    (h : (r.run.run s).1.toOption.map shown = some b) : ∃ a s', r.Gives s a s' ∧ shown a = b := by
  unfold Gives
  rcases hr : r.run.run s with ⟨x, s'⟩
  rw [hr] at h
  cases x with
  | error e => cases h
  | ok a => exact ⟨a, s', rfl, Option.some.inj h⟩

/-- The same of a step that may find nothing, when something shows. -/
theorem exists_gives_some_of_shown {r : Run (Option α)} {s : RunState} {shown : α → β} {b : β}
    (h : (r.run.run s).1.toOption.map (·.map shown) = some (some b)) :
    ∃ a s', r.Gives s (some a) s' ∧ shown a = b := by
  obtain ⟨found, s', hrun, hshown⟩ := exists_gives_of_shown h
  obtain ⟨a, rfl, ha⟩ := Option.map_eq_some_iff.mp hshown
  exact ⟨a, s', hrun, ha⟩

/-- A step that finds something when it is run gives it. -/
theorem exists_gives_some {r : Run (Option α)} {s : RunState}
    (h : (r.run.run s).1.toOption.join.isSome = true) : ∃ a s', r.Gives s (some a) s' := by
  obtain ⟨a, ha⟩ := Option.isSome_iff_exists.mp h
  have hfound : (r.run.run s).1.toOption.map (·.map id) = some (some a) := by
    rw [Option.join_eq_some_iff.mp ha]
    rfl
  obtain ⟨a, s', hrun, -⟩ := exists_gives_some_of_shown hfound
  exact ⟨a, s', hrun⟩

end Run

/-! ### Notes -/

/-- A state in which more has been noted. -/
def RunState.noting (s : RunState) (new : List Event) : RunState :=
  { s with events := s.events ++ new }

namespace RunState

/-- Between two states notes were added at most. -/
def Grows (s s' : RunState) : Prop := ∃ new, s'.events = s.events ++ new

/-- Nothing may have been added. -/
theorem Grows.rfl {s : RunState} : s.Grows s := ⟨[], (List.append_nil _).symm⟩

/-- What is added twice is added. -/
theorem Grows.trans {s t u : RunState} (h₁ : s.Grows t) (h₂ : t.Grows u) : s.Grows u := by
  obtain ⟨new₁, hnew₁⟩ := h₁
  obtain ⟨new₂, hnew₂⟩ := h₂
  exact ⟨new₁ ++ new₂, by rw [hnew₂, hnew₁, List.append_assoc]⟩

/-- Notes are added behind those there are. -/
theorem grows_noting (s : RunState) (es : List Event) : s.Grows (s.noting es) := ⟨es, Eq.refl _⟩

/-- No notes change nothing. -/
@[simp] theorem noting_nil (s : RunState) : s.noting [] = s := by
  unfold noting
  rw [List.append_nil]

/-- Notes may be added one after the other or at once. -/
@[simp] theorem noting_noting (s : RunState) (es fs : List Event) :
    (s.noting es).noting fs = s.noting (es ++ fs) := by
  unfold noting
  rw [List.append_assoc]

/-- Notes do not touch the global context. -/
@[simp] theorem noting_globals (s : RunState) (es : List Event) :
    (s.noting es).globals = s.globals :=
  rfl

/-- Notes do not touch the word on whether this is a copy. -/
@[simp] theorem noting_inCopy (s : RunState) (es : List Event) :
    (s.noting es).inCopy = s.inCopy :=
  rfl

/-- Notes stand behind those there are. -/
@[simp] theorem noting_events (s : RunState) (es : List Event) :
    (s.noting es).events = s.events ++ es :=
  rfl

end RunState

/-- A note is added and nothing else is done. -/
theorem Run.gives_note_iff {e : Event} {s s' : RunState} {u : Unit} :
    (Run.note e).Gives s u s' ↔ s' = s.noting [e] := by
  constructor
  · intro h
    cases h
    rfl
  · rintro rfl
    rfl

/-! ### Calm steps -/

/-- Whether an event is about a path that was looked up. -/
def Event.isLookup : Event → Bool
  | undefinedPath .. => true
  | _ => false

namespace RunState

/-- Between two states prefixes were made up at most. -/
def SameButMade (s s' : RunState) : Prop := s' = { s with made := s'.made }

/-- Between two states nothing happened but that prefixes were made up and paths looked up. -/
structure Calm (s s' : RunState) : Prop where
  globals : s'.globals = s.globals
  inCopy : s'.inCopy = s.inCopy
  notes : ∃ new, s'.events = s.events ++ new ∧ ∀ e ∈ new, e.isLookup = true

/-- No prefixes may have been made up. -/
theorem SameButMade.rfl {s : RunState} : s.SameButMade s := Eq.refl s

/-- Prefixes may be made up one after the other. -/
theorem SameButMade.trans {s t u : RunState} (h₁ : s.SameButMade t) (h₂ : t.SameButMade u) :
    s.SameButMade u := by
  unfold SameButMade at *
  rw [h₂, h₁]

/-- Making up prefixes is calm. -/
theorem SameButMade.calm {s s' : RunState} (h : s.SameButMade s') : s.Calm s' := by
  rw [h]
  exact ⟨Eq.refl _, Eq.refl _, [], (List.append_nil _).symm, fun e he => nomatch he⟩

/-- A calm stretch only adds to the notes. -/
theorem Calm.grows {s s' : RunState} (h : s.Calm s') : s.Grows s' := by
  obtain ⟨new, hnew, -⟩ := h.notes
  exact ⟨new, hnew⟩

/-- Doing nothing is calm. -/
theorem Calm.rfl {s : RunState} : s.Calm s := SameButMade.rfl.calm

/-- Calm stretches may follow each other. -/
theorem Calm.trans {s t u : RunState} (h₁ : s.Calm t) (h₂ : t.Calm u) : s.Calm u := by
  obtain ⟨new₁, hev₁, hnew₁⟩ := h₁.notes
  obtain ⟨new₂, hev₂, hnew₂⟩ := h₂.notes
  refine ⟨h₂.globals.trans h₁.globals, h₂.inCopy.trans h₁.inCopy, new₁ ++ new₂, ?_, ?_⟩
  · rw [hev₂, hev₁, List.append_assoc]
  · intro e he
    rcases List.mem_append.mp he with he | he
    · exact hnew₁ e he
    · exact hnew₂ e he

end RunState

end AttrTemplates
