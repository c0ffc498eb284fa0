import AttrTemplates.Proofs.Expr.Names
import AttrTemplates.Proofs.Value.Plain

/-!
# `AttrTemplates.Proofs.Expr.Failures`: how evaluation can fail

Where contexts bind names to plain data, the evaluation of an expression can fail in two ways. Its
type is not known, which the engine reports itself; or something is larger than it may be: an index
in a path or an integer in a text has too many digits. If it does not fail, its value is plain data
again. The expression itself needs to be a text that a document may hold, since it may come out as
one.

* `Failure.isLimit` tells the failures that have to do with sizes, and `Ends` says of a computation
  that it comes to a result with a property or to a failure of the two kinds;
* `Evaluator.valueIn_ends` is the result for expressions.
-/

set_option autoImplicit false

namespace AttrTemplates

open Xml

/-! ### Failures to be expected -/

/-- Whether a failure says that something is larger than it may be. -/
def Failure.isLimit : Failure → Bool
  | .indexTooLong _ => true
  | .integerTooLong => true
  | .nestingTooDeep => true
  | _ => false

/-- Whether a failure is one of the engine's own, or says that something is too large. -/
def Failure.isExpected (f : Failure) : Bool := f.isOwn || f.isLimit

section

variable {α β : Type} {P : α → Prop} {Q : β → Prop}

/-- A computation comes to a result with a property, or to a failure that is to be expected. -/
def Ends (P : α → Prop) : Except Failure α → Prop
  | .ok a => P a
  | .error f => f.isExpected = true

/-- A sequence comes to an end if its second part does from any result of the first. -/
theorem Ends.bind {x : Except Failure α} {f : α → Except Failure β} (hx : Ends P x)
    (hf : ∀ a, P a → Ends Q (f a)) : Ends Q (x >>= f) := by
  cases x with
  | error e => exact hx
  | ok a => exact hf a hx

/-- Computations with notes end so from whatever notes there are. -/
structure Traced.Ends (P : α → Prop) (t : Traced α) : Prop where
  run : ∀ events, AttrTemplates.Ends P (t.run.run events).1

namespace Traced

/-- A result that is known beforehand is one to come to. -/
theorem ends_pure {a : α} (h : P a) : (pure a : Traced α).Ends P := ⟨fun _ => h⟩

/-- An expected failure is one to come to. -/
theorem ends_throw {f : Failure} (h : f.isExpected = true) : (throw f : Traced α).Ends P :=
  ⟨fun _ => h⟩

/-- A computation without notes ends as it does on its own. -/
theorem ends_ofExcept {x : Except Failure α} (h : AttrTemplates.Ends P x) :
    (ofExcept x).Ends P := by
  cases x with
  | error f => exact ends_throw h
  | ok a => exact ends_pure h

/-- A note is no failure. -/
theorem ends_note (e : Event) : (note e).Ends fun _ => True := ⟨fun _ => trivial⟩

/-- A sequence comes to an end if its second part does from any result of the first. -/
theorem Ends.bind {t : Traced α} {f : α → Traced β} (ht : t.Ends P)
    (hf : ∀ a, P a → (f a).Ends Q) : (t >>= f).Ends Q := by
  refine ⟨fun events => ?_⟩
  have hfirst := ht.run events
  rw [run_bind]
  generalize t.run.run events = x at hfirst
  obtain ⟨e | a, events'⟩ := x
  · exact hfirst
  · exact (hf a hfirst).run events'

end Traced

end

/-- A plain value is written as a text that a document may hold, unless an integer in it is too
long. -/
theorem Value.written_ends {v : Value} (h : v.isPlain = true) :
    Ends (fun s => isLegalText s = true) v.written := by
  unfold Value.written
  split
  · rfl
  · exact v.isLegalText_text h

/-- A plain value can be written, and a document may hold what is written. -/
theorem Value.writtenOrNothing_ends {v : Value} (h : v.isPlain = true) :
    Ends (fun s => isLegalText s = true) v.writtenOrNothing := by
  unfold Value.writtenOrNothing
  split
  · rfl
  · exact v.written_ends h

namespace Expr

/-! ### Paths -/

/-- A plain value is where an expression ends. -/
abbrev EndsPlain (x : Except Failure Value) : Prop := Ends (fun v => v.isPlain = true) x

/-- A step into a sequence gives a plain item or nothing, unless its index has too many digits. -/
theorem sequenceStep_ends {items : List Value} (h : ∀ item ∈ items, item.isPlain = true)
    (atom : String) : EndsPlain (sequenceStep items atom) := by
  unfold sequenceStep
  split
  · rfl
  · dsimp only
    split
    · rfl
    · show (itemAt items (indexValue atom)).isPlain = true
      unfold itemAt
      dsimp only
      -- The place in the list does not matter: whatever is found there is one of the items.
      generalize (if indexValue atom < 0 then indexValue atom + items.length
        else indexValue atom) = j
      split
      · rfl
      · cases hitem : items[j.toNat]? with
        | none => rfl
        | some item => exact h item (List.mem_of_getElem? hitem)

/-- A step from a plain value leads to one. -/
theorem step_ends {v : Value} (h : v.isPlain = true) (atom : String) (call : Bool) :
    EndsPlain (step v atom call) := by
  unfold step
  -- The members of plain values are the operations of loops, whose outcomes are plain.
  split
  · rename_i m hm
    obtain ⟨state, -, hmember⟩ := Value.member?_of_isPlain h hm
    have hplain := LoopState.isPlain_of_member? hmember
    unfold memberStep
    split
    · obtain ⟨-, w, rfl, hw⟩ := Value.plain_operation hplain
      split
      · exact hplain
      · split
        · exact hw
        · rfl
    · exact hplain
  · split
    · exact (Entries.hasPlain_of_areEntriesPlain h).get atom
    · exact nomatch h
    · exact nomatch h
    · exact sequenceStep_ends (arePlain_iff.mp h) atom
    · exact sequenceStep_ends (arePlain_iff.mp h) atom
    · exact nomatch h
    · exact nomatch h
    · rfl

/-- A context in which a first step leads to plain values. Its keys need not be known. -/
def Opens (context : Value) : Prop := ∀ atom call, EndsPlain (step context atom call)

/-- A context of plain values opens. -/
theorem opens_map {entries : Entries} (h : entries.HasPlain) : Opens (.map entries) := by
  intro atom call
  rw [step_map]
  exact h.get atom

/-- A walk along names that begins at what opens ends with plain data, by induction on the names. -/
theorem walk_ends (callLast : Bool) {v : Value} (h : Opens v) {atoms : List String}
    (hne : atoms ≠ []) : EndsPlain (walk callLast v atoms) := by
  induction atoms generalizing v with
  | nil => exact (hne rfl).elim
  | cons atom atoms ih =>
    cases atoms with
    | nil => exact h atom callLast
    | cons next rest =>
      refine (h atom true).bind fun w hw => ?_
      split
      · rfl
      · exact ih (fun atom call => step_ends hw atom call) (List.cons_ne_nil next rest)

/-- The first alternative that is found is one of the walks. -/
theorem firstAlternative_ends (callLast : Bool) {context : Value} (h : Opens context)
    {as : List (List String)} (hne : ∀ a ∈ as, a ≠ []) :
    EndsPlain (firstAlternative callLast context as) := by
  induction as with
  | nil => rfl
  | cons a as ih =>
    obtain ⟨ha, has⟩ := List.forall_mem_cons.mp hne
    refine (walk_ends callLast h ha).bind fun v hv => ?_
    split
    · exact ih has
    · exact hv

/-- The first context that has an alternative gives what that alternative does. -/
theorem firstContext_ends (callLast : Bool) {as : List (List String)} (hne : ∀ a ∈ as, a ≠ [])
    {contexts : List Value} (h : ∀ context ∈ contexts, Opens context) :
    EndsPlain (firstContext callLast as contexts) := by
  induction contexts with
  | nil => rfl
  | cons context contexts ih =>
    obtain ⟨hcontext, hcontexts⟩ := List.forall_mem_cons.mp h
    refine (firstAlternative_ends callLast hcontext hne).bind fun v hv => ?_
    split
    · exact ih hcontexts
    · exact hv

/-- A path is resolved in contexts that open, and ends with plain data. -/
theorem resolve_ends (path : String) (callLast : Bool) {contexts : List Value}
    (h : ∀ context ∈ contexts, Opens context) :
    (resolve path contexts callLast).Ends fun v => v.isPlain = true := by
  have hne : ∀ a ∈ alternatives path, a ≠ [] := fun a ha => alternatives_ne_nil ha
  have hfound := firstContext_ends callLast hne h
  refine (Traced.ends_ofExcept hfound).bind fun v hv => ?_
  split
  · exact (Traced.ends_note _).bind fun _ _ => Traced.ends_pure hv
  · exact Traced.ends_pure hv

/-! ### Texts -/

/-- Characters that a document may hold. -/
abbrev AreLegal (cs : List Char) : Prop := cs.all isXmlChar = true

/-- A piece of a text with placeholders that a document may hold. -/
def Segment.IsLegal : Segment → Prop
  | .plain c => isXmlChar c = true
  | .braced expr => AreLegal expr

/-- Some of legal characters are legal. -/
theorem areLegal_of_subset {cs ds : List Char} (h : AreLegal cs) (hsub : ∀ c ∈ ds, c ∈ cs) :
    AreLegal ds :=
  List.all_eq_true.mpr fun c hc => List.all_eq_true.mp h c (hsub c hc)

/-- Legal characters may be put together. -/
theorem areLegal_append {cs ds : List Char} (hcs : AreLegal cs) (hds : AreLegal ds) :
    AreLegal (cs ++ ds) :=
  Read.all_append_of_all hcs hds

/-- The segments of an expression hold its characters. -/
theorem segments_areLegal {cs : List Char} (h : AreLegal cs) :
    ∀ s ∈ segments cs, s.IsLegal := by
  -- The segments are cut off the text one after the other, and what is left of it stays legal.
  fun_induction segments cs with
  | case1 =>
    intro s hs
    cases hs
  | case2 cs expr rest hclosing _ ih =>
    rw [← closing?_append hclosing] at h
    exact List.forall_mem_cons.mpr ⟨areLegal_of_subset h fun c hc => by simp [hc],
      ih (areLegal_of_subset h fun c hc => by simp [hc])⟩
  | case3 cs _ ih =>
    refine List.forall_mem_cons.mpr ⟨rfl, ih ?_⟩
    exact areLegal_of_subset h fun c hc => List.mem_cons_of_mem _ hc
  | case4 c cs _ ih =>
    obtain ⟨hc, hcs⟩ := Bool.and_eq_true_iff.mp h
    exact List.forall_mem_cons.mpr ⟨hc, ih hcs⟩

/-- What is behind the type of an expression is a part of it. -/
theorem form_areLegal {expr : List Char} (h : AreLegal expr) : AreLegal (form expr).2 := by
  have hstart : AreLegal (Text.trimStart expr) :=
    areLegal_of_subset h (List.dropWhile_sublist Text.isBlank).subset
  unfold form
  dsimp only
  split
  · rename_i body _ hbody
    refine areLegal_of_subset hstart fun c hc => ?_
    refine (List.dropWhile_sublist Text.isWord).subset ?_
    rw [hbody]
    exact List.mem_cons_of_mem _ ((List.dropWhile_sublist Text.isBlank).subset hc)
  · exact hstart

namespace Evaluator

/-- The segments are filled one after the other, each with the legal text of a plain value. -/
theorem fillBraced_ends {value : List Char → Traced Value}
    (hvalue : ∀ e, AreLegal e → (value e).Ends fun v => v.isPlain = true) {ss : List Segment}
    (h : ∀ s ∈ ss, s.IsLegal) : (fillBraced value ss).Ends AreLegal := by
  induction ss with
  | nil => exact Traced.ends_pure rfl
  | cons s ss ih =>
    obtain ⟨hs, hss⟩ := List.forall_mem_cons.mp h
    cases s with
    | plain c =>
      exact (ih hss).bind fun rest hrest => Traced.ends_pure (Bool.and_eq_true_iff.mpr ⟨hs, hrest⟩)
    | braced e =>
      refine (hvalue e hs).bind fun v hv => ?_
      refine (Traced.ends_ofExcept (v.writtenOrNothing_ends hv)).bind fun here hhere => ?_
      exact (ih hss).bind fun rest hrest => Traced.ends_pure (areLegal_append hhere hrest)

/-- The contexts that an expression is evaluated in open. -/
theorem opens_contexts {locals globals : Entries} (hlocals : locals.HasPlain)
    (hglobals : globals.HasPlain) :
    ∀ context ∈ [Value.map locals, .map globals], Opens context :=
  List.forall_mem_cons.mpr
    ⟨opens_map hlocals, List.forall_mem_singleton.mpr (opens_map hglobals)⟩

section

variable {locals globals : Entries} (hlocals : locals.HasPlain) (hglobals : globals.HasPlain)
include hlocals hglobals

/-- Values that stand for words are texts that a document may hold. -/
theorem fillWords_ends {cs : List Char} (h : AreLegal cs) :
    (standard.fillWords [.map locals, .map globals] cs).Ends AreLegal := by
  have hcontexts := opens_contexts hlocals hglobals
  -- By the recursion of the words: one behind a dollar, or one character that is taken over.
  fun_induction dollarWords cs with
  | case1 =>
    rw [fillWords]
    exact Traced.ends_pure rfl
  | case2 cs ih =>
    have hrest : AreLegal (cs.dropWhile Text.isWord) := areLegal_of_subset h fun c hc =>
      List.mem_cons_of_mem _ ((List.dropWhile_sublist Text.isWord).subset hc)
    rw [fillWords]
    refine (resolve_ends _ true hcontexts).bind fun v hv => ?_
    refine (Traced.ends_ofExcept (v.writtenOrNothing_ends hv)).bind fun here hhere => ?_
    exact (ih hrest).bind fun rest hrest => Traced.ends_pure (areLegal_append hhere hrest)
  | case3 c cs hne ih =>
    obtain ⟨hc, hcs⟩ := Bool.and_eq_true_iff.mp h
    rw [fillWords]
    · exact (ih hcs).bind fun rest hrest => Traced.ends_pure (Bool.and_eq_true_iff.mpr ⟨hc, hrest⟩)
    · exact hne

/-! ### Expressions -/

/-- An expression that a document may hold ends with plain data, where names are bound to plain
data. -/
theorem valueOf_ends {expr : List Char} (h : AreLegal expr) :
    (standard.valueOf expr [.map locals, .map globals]).Ends fun v => v.isPlain = true := by
  have hcontexts := opens_contexts hlocals hglobals
  -- Inside an expression only shorter ones are evaluated.
  induction hn : expr.length using Nat.strongRecOn generalizing expr with
  | _ n ih =>
    subst hn
    have hinside : ∀ e, AreLegal e → (if e.length < expr.length then
        standard.valueOf e [.map locals, .map globals]
        else throw .nestingTooDeep : Traced Value).Ends fun v => v.isPlain = true := by
      intro e he
      split
      · rename_i hshorter
        exact ih e.length hshorter he rfl
      · exact Traced.ends_throw rfl
    rw [valueOf_eq]
    cases hm : standard.types.lookup (typeOf expr) with
    | none => exact Traced.ends_throw rfl
    | some m =>
      dsimp only [orEmpty]
      rcases standard_lookup hm with rfl | rfl | rfl | rfl | rfl
      · exact resolve_ends _ true hcontexts
      · have hfilled := fillBraced_ends hinside (segments_areLegal (form_areLegal h))
        refine Traced.Ends.bind (P := AreLegal) (hfilled.bind fun filled hfilled =>
          fillWords_ends hlocals hglobals hfilled) fun cs hcs => Traced.ends_pure ?_
        rw [Value.isPlain_str, isLegalText_ofList]
        exact hcs
      · exact (hinside _ (form_areLegal h)).bind fun v _ =>
          Traced.ends_pure (Value.isPlain_bool _)
      · exact (resolve_ends _ true hcontexts).bind fun v _ =>
          Traced.ends_pure (Value.isPlain_bool _)
      · exact resolve_ends _ false hcontexts

/-- The notes of an evaluation aside, an expression ends with plain data. -/
theorem valueIn_ends {expr : String} (h : isLegalText expr = true) :
    EndsPlain (standard.valueIn locals globals expr).1 :=
  (valueOf_ends hlocals hglobals h).run []

end

end Evaluator

end Expr

end AttrTemplates
