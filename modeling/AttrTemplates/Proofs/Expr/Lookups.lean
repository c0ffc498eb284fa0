import AttrTemplates.Proofs.Expr.Indices
import AttrTemplates.Proofs.Expr.Names
import AttrTemplates.Proofs.Value.Data
import Mathlib.Data.List.ProdSigma

/-!
# `AttrTemplates.Proofs.Expr.Lookups`: paths that lead nowhere

A path that leads nowhere is undefined. On data there is one way to something else than a value: an
atom that is applied to a sequence and is an index of more digits than a number is read from. Such
an index is not taken for one past the end, it fails.

* `Stops` says that following atoms comes to such an index, and `walk_cases` that this is all that
  can happen to it, next to reaching a value;
* `attempts` lists what a path tries, one after the other, and `Evaluator.lookup_outcome` says of
  paths, whether they are called, left uncalled or asked for existence, that they fail exactly when
  an attempt stops and nothing was found before it. No index is that long in a path without long
  runs of digits (`hasLongRun_of_searchStops`), so such a path never fails.
-/

set_option autoImplicit false

namespace AttrTemplates

namespace Expr

/-- Whether there are more digits in a row somewhere in a text than a number is read from. -/
def HasLongRun (cs : List Char) : Prop :=
  ∃ run, run <:+: cs ∧ run.all Number.isDigit = true ∧ Number.maxDigits < run.length

/-- A long run in a stretch of a text is one in the text. -/
theorem HasLongRun.mono {cs ds : List Char} (h : HasLongRun cs) (hsub : cs <:+: ds) :
    HasLongRun ds := by
  obtain ⟨run, hrun, hdigits, hlong⟩ := h
  exact ⟨run, hrun.trans hsub, hdigits, hlong⟩

/-- The atoms of a path stand in it. -/
theorem atom_isInfix {path : String} {a : List String} (ha : a ∈ alternatives path)
    {atom : String} (hatom : atom ∈ a) : atom.toList <:+: path.toList := by
  obtain ⟨piece, hpiece, rfl⟩ := List.mem_map.mp ha
  obtain ⟨cs, hcs, rfl⟩ := List.mem_map.mp hatom
  rw [String.toList_ofList]
  have hinside : piece <:+: path.toList :=
    ((Text.splitAt_isInfix _ _).2 piece hpiece).trans (Text.trim_isInfix _)
  have htrimmed : Text.trim piece <:+: path.toList := (Text.trim_isInfix piece).trans hinside
  split at hcs
  · -- A slash that leads does not belong to any atom.
    rename_i rest heq
    rw [heq] at htrimmed
    have hrest : rest <:+: path.toList := (List.suffix_cons '/' rest).isInfix.trans htrimmed
    exact ((Text.splitAt_isInfix _ _).2 cs hcs).trans hrest
  · exact ((Text.splitAt_isInfix _ _).2 cs hcs).trans htrimmed

/-! ### Indices that are too long -/

/-- Whether an atom is an index of more digits than a number is read from. -/
def IsOverlong (atom : String) : Prop :=
  isIndex atom = true ∧ Number.maxDigits < (indexDigits atom).length

/-- The digits of an index are a stretch of its text. -/
theorem indexDigits_isInfix (atom : String) : indexDigits atom <:+: atom.toList := by
  unfold indexDigits
  split
  · rename_i heq
    rw [heq]
    exact (List.suffix_cons _ _).isInfix
  · exact List.infix_rfl

/-- An index that is too long is a long run of digits. -/
theorem IsOverlong.hasLongRun {atom : String} (h : IsOverlong atom) : HasLongRun atom.toList :=
  ⟨indexDigits atom, indexDigits_isInfix atom, all_isDigit_indexDigits h.1, h.2⟩

/-! ### Following atoms -/

/-- Whether indices are applied to a value. -/
def isSequence : Value → Bool
  | .list _ | .tuple _ | .parts .. => true
  | _ => false

/-- Following atoms from a value comes to a sequence, and there to an index of `n` digits, which are
too many. -/
inductive Stops : Value → List String → Nat → Prop
  | here {v : Value} {atom : String} {rest : List String} (hv : isSequence v = true)
      (hatom : IsOverlong atom) : Stops v (atom :: rest) (indexDigits atom).length
  | further {v w : Value} {atom : String} {rest : List String} {n : Nat}
      (hstep : step v atom = .ok w) (hw : w.isUndefined = false) (h : Stops w rest n) :
      Stops v (atom :: rest) n

/-- What following atoms reaches: data, or an operation of a loop that should not be called. -/
inductive IsReached (fits : Int → Bool) : Bool → Value → Prop
  | data {call : Bool} {v : Value} (h : v.isDataWith fits = true) : IsReached fits call v
  | uncalled (name : String) (w : Value) : IsReached fits false (.operation name [] (.ok w))

section

variable {fits : Int → Bool}

/-- What is reached by calls alone is data that fit. -/
theorem IsReached.isDataWith {v : Value} (h : IsReached fits true v) :
    v.isDataWith fits = true := by
  cases h with
  | data h => exact h

/-- The item at any place is among the items, or nothing. -/
theorem itemAt_isDataWith {items : List Value} (h : ∀ item ∈ items, item.isDataWith fits = true)
    (i : Int) : (itemAt items i).isDataWith fits = true := by
  unfold itemAt
  dsimp only
  generalize (if i < 0 then i + items.length else i) = j
  split
  · rfl
  · cases hitem : items[j.toNat]? with
    | none => rfl
    | some item => exact h item (List.mem_of_getElem? hitem)

/-- A step from a sequence has a value, unless the atom is an index that is too long. -/
theorem sequenceStep_cases {items : List Value}
    (h : ∀ item ∈ items, item.isDataWith fits = true) (atom : String) :
    (IsOverlong atom
      ∧ sequenceStep items atom = .error (.indexTooLong (indexDigits atom).length)) ∨
    (¬ IsOverlong atom ∧ ∃ w, sequenceStep items atom = .ok w ∧ w.isDataWith fits = true) := by
  unfold sequenceStep IsOverlong
  dsimp only
  by_cases hindex : isIndex atom = true
  · by_cases hlong : Number.maxDigits < (indexDigits atom).length
    · left
      simp [hindex, hlong]
    · right
      simp [hindex, hlong, itemAt_isDataWith h]
  · right
    simp [hindex, Value.isDataWith]

/-- A step from data has a value, unless it is one into a sequence by an index that is too long. -/
theorem step_cases {v : Value} (h : v.isDataWith fits = true) (atom : String) (call : Bool) :
    (isSequence v = true ∧ IsOverlong atom
      ∧ step v atom call = .error (.indexTooLong (indexDigits atom).length)) ∨
    (¬ (isSequence v = true ∧ IsOverlong atom)
      ∧ ∃ w, step v atom call = .ok w ∧ IsReached fits call w) := by
  cases hm : v.member? atom with
  | some m =>
    -- Only the state of a loop has members, and it is no sequence.
    obtain ⟨⟨state, rfl⟩, w, rfl, hw⟩ := Value.member?_of_isDataWith h hm
    refine .inr ⟨(fun hno => nomatch hno.1), ?_⟩
    unfold step
    rw [hm]
    cases call with
    | true => exact ⟨w, rfl, .data hw⟩
    | false => exact ⟨_, rfl, .uncalled atom w⟩
  | none =>
    unfold step
    rw [hm]
    have hsequence : ∀ {items : List Value}, (∀ item ∈ items, item.isDataWith fits = true) →
        (IsOverlong atom
          ∧ sequenceStep items atom = .error (.indexTooLong (indexDigits atom).length)) ∨
        (¬ IsOverlong atom ∧ ∃ w, sequenceStep items atom = .ok w ∧ IsReached fits call w) := by
      intro items hitems
      refine (sequenceStep_cases hitems atom).imp_right ?_
      rintro ⟨hshort, w, hw, hdata⟩
      exact ⟨hshort, w, hw, .data hdata⟩
    cases v with
    | list items => simpa [isSequence] using hsequence (areDataWith_iff.mp h)
    | tuple items => simpa [isSequence] using hsequence (areDataWith_iff.mp h)
    | parts name items => simpa [isSequence] using hsequence (arePartsDataWith_iff.mp h)
    | map entries =>
      exact .inr ⟨(fun hno => nomatch hno.1), _, rfl, .data (Entries.get_isDataWith h atom)⟩
    | record | object => exact nomatch h
    | _ => exact .inr ⟨(fun hno => nomatch hno.1), _, rfl, .data rfl⟩

/-- Following atoms from data stops at one index that is too long, or comes to a value. -/
theorem walk_cases {callLast : Bool} {v : Value} (h : v.isDataWith fits = true)
    {atoms : List String} (hne : atoms ≠ []) :
    (∃ n, (∀ k, Stops v atoms k ↔ k = n) ∧ walk callLast v atoms = .error (.indexTooLong n)) ∨
    ((∀ k, ¬ Stops v atoms k)
      ∧ ∃ w, walk callLast v atoms = .ok w ∧ IsReached fits callLast w) := by
  induction atoms generalizing v with
  | nil => exact (hne rfl).elim
  | cons atom rest ih =>
    -- The last atom is a case of its own: it alone may leave its operation uncalled, and nothing
    -- can stop behind it.
    cases rest with
    | nil =>
      obtain ⟨hv, hatom, herror⟩ | ⟨hgoes, w, hstep, hw⟩ := step_cases h atom callLast
      · refine .inl ⟨_, fun k => ⟨fun hstops => ?_, fun hk => hk ▸ .here hv hatom⟩, herror⟩
        cases hstops with
        | here => rfl
        | further _ _ hnothing => cases hnothing
      · refine .inr ⟨fun k hstops => ?_, w, hstep, hw⟩
        cases hstops with
        | here hv hatom => exact hgoes ⟨hv, hatom⟩
        | further _ _ hnothing => cases hnothing
    | cons next rest =>
      have hrest : next :: rest ≠ [] := List.cons_ne_nil next rest
      obtain ⟨hv, hatom, herror⟩ | ⟨hgoes, w, hstep, hw⟩ := step_cases h atom true
      · refine .inl ⟨_, fun k => ⟨fun hstops => ?_, fun hk => hk ▸ .here hv hatom⟩, ?_⟩
        · cases hstops with
          | here => rfl
          | further hstep =>
            rw [herror] at hstep
            cases hstep
        · rw [walk, herror]
          · rfl
          · exact hrest
      · -- Whatever stops behind this step stops where the step leads.
        have hinv : ∀ k, Stops v (atom :: next :: rest) k ↔
            w.isUndefined = false ∧ Stops w (next :: rest) k := by
          refine fun k => ⟨fun hstops => ?_, fun hfurther => .further hstep hfurther.1 hfurther.2⟩
          cases hstops with
          | here hv hatom => exact (hgoes ⟨hv, hatom⟩).elim
          | further hstep' hdefined hstops =>
            obtain rfl := Except.ok.inj (hstep.symm.trans hstep')
            exact ⟨hdefined, hstops⟩
        cases hdefined : w.isUndefined with
        | true =>
          refine .inr ⟨fun k hstops => ?_, .undefined, ?_, .data rfl⟩
          · rw [((hinv k).mp hstops).1] at hdefined
            cases hdefined
          · rw [walk, hstep]
            · show (if w.isUndefined then pure .undefined else _ : Except Failure Value) = _
              rw [hdefined]
              rfl
            · exact hrest
        | false =>
          simp only [walk_cons hstep hdefined hrest, hinv, hdefined, true_and]
          exact ih hw.isDataWith hrest

end

/-! ### Searching -/

/-- What a path tries, in order: contexts from the first to the last, in each all alternatives. -/
def attempts (path : String) (contexts : List Value) : List (Value × List String) :=
  contexts ×ˢ alternatives path

/-- The first defined value that is computed from the items of a list. -/
def firstDefined {α : Type} (f : α → Except Failure Value) : List α → Except Failure Value
  | [] => .ok .undefined
  | a :: as => do
    let v ← f a
    if v.isUndefined then firstDefined f as else pure v

section

variable {α : Type} {f : α → Except Failure Value}

/-- What is undefined is passed over. -/
theorem firstDefined_cons_of_undefined {a : α} (h : f a = .ok .undefined) (as : List α) :
    firstDefined f (a :: as) = firstDefined f as := by
  rw [firstDefined, h]
  rfl

/-- A failure ends the search. -/
theorem firstDefined_cons_of_error {a : α} {e : Failure} (h : f a = .error e) (as : List α) :
    firstDefined f (a :: as) = .error e := by
  rw [firstDefined, h]
  rfl

/-- What is defined ends the search. -/
theorem firstDefined_cons_of_defined {a : α} {v : Value} (h : f a = .ok v)
    (hv : v.isUndefined = false) (as : List α) : firstDefined f (a :: as) = .ok v := by
  rw [firstDefined, h]
  show (if v.isUndefined then _ else pure v : Except Failure Value) = _
  rw [hv]
  rfl

/-- A second search is made only if the first one finds nothing. -/
theorem firstDefined_append (as bs : List α) : firstDefined f (as ++ bs) = (do
    let v ← firstDefined f as
    if v.isUndefined then firstDefined f bs else pure v) := by
  induction as with
  | nil => rfl
  | cons a as ih =>
    -- What the first attempt comes to decides: a failure, nothing, or a value.
    cases ha : f a with
    | error e =>
      rw [List.cons_append, firstDefined_cons_of_error ha, firstDefined_cons_of_error ha]
      rfl
    | ok v =>
      cases v with
      | undefined =>
        rw [List.cons_append, firstDefined_cons_of_undefined ha,
          firstDefined_cons_of_undefined ha, ih]
      | _ =>
        rw [List.cons_append, firstDefined_cons_of_defined ha rfl,
          firstDefined_cons_of_defined ha rfl]
        rfl

/-- A search fails as the first computation that gives anything, if this one fails. -/
theorem firstDefined_eq_error_iff {as : List α} {e : Failure} :
    firstDefined f as = .error e ↔ ∃ before a behind, as = before ++ a :: behind
      ∧ (∀ b ∈ before, f b = .ok .undefined) ∧ f a = .error e := by
  constructor
  · intro h
    -- By induction on the attempts: what is behind the first is searched only if it gave nothing.
    induction as with
    | nil => cases h
    | cons a as ih =>
      cases ha : f a with
      | error e' =>
        rw [firstDefined_cons_of_error ha] at h
        cases h
        exact ⟨[], a, as, rfl, by simp, ha⟩
      | ok v =>
        cases v with
        | undefined =>
          rw [firstDefined_cons_of_undefined ha] at h
          obtain ⟨before, b, behind, rfl, hbefore, hb⟩ := ih h
          exact ⟨a :: before, b, behind, rfl, List.forall_mem_cons.mpr ⟨ha, hbefore⟩, hb⟩
        | _ =>
          rw [firstDefined_cons_of_defined ha rfl] at h
          cases h
  · rintro ⟨before, a, behind, rfl, hbefore, ha⟩
    induction before with
    | nil => exact firstDefined_cons_of_error ha behind
    | cons b before ih =>
      obtain ⟨hb, hbefore⟩ := List.forall_mem_cons.mp hbefore
      rw [List.cons_append, firstDefined_cons_of_undefined hb, ih hbefore]

/-- If everything is undefined, nothing is found. -/
theorem firstDefined_of_forall_undefined {as : List α} (h : ∀ a ∈ as, f a = .ok .undefined) :
    firstDefined f as = .ok .undefined := by
  induction as with
  | nil => rfl
  | cons a as ih =>
    obtain ⟨ha, has⟩ := List.forall_mem_cons.mp h
    rw [firstDefined_cons_of_undefined ha, ih has]

/-- What a search finds is undefined or was computed from one of the items. -/
theorem firstDefined_eq_ok {as : List α} {v : Value} (h : firstDefined f as = .ok v) :
    v = .undefined ∨ ∃ a ∈ as, f a = .ok v := by
  induction as with
  | nil => exact .inl (Except.ok.inj h).symm
  | cons a as ih =>
    cases ha : f a with
    | error e =>
      rw [firstDefined_cons_of_error ha] at h
      cases h
    | ok w =>
      -- The search ends here or goes on behind, and in either case it comes to what was found.
      have hhere : firstDefined f (a :: as) = .ok w ∨ firstDefined f (a :: as) = firstDefined f as := by
        cases w with
        | undefined => exact .inr (firstDefined_cons_of_undefined ha as)
        | _ => exact .inl (firstDefined_cons_of_defined ha rfl as)
      obtain hw | hrest := hhere
      · obtain rfl := Except.ok.inj (hw.symm.trans h)
        exact .inr ⟨a, List.mem_cons_self, ha⟩
      · refine (ih (hrest.symm.trans h)).imp_right ?_
        rintro ⟨b, hb, hvalue⟩
        exact ⟨b, List.mem_cons_of_mem _ hb, hvalue⟩

end

/-- The search of contexts is one over all pairs of a context and an alternative, in their order. -/
theorem firstContext_eq_firstDefined (callLast : Bool) (path : String) (contexts : List Value) :
    firstContext callLast (alternatives path) contexts
      = firstDefined (fun a => walk callLast a.1 a.2) (attempts path contexts) := by
  have halternatives : ∀ (context : Value) (as : List (List String)),
      firstAlternative callLast context as
        = firstDefined (fun a => walk callLast a.1 a.2) (as.map (Prod.mk context)) := by
    intro context as
    induction as with
    | nil => rfl
    | cons a as ih => rw [firstAlternative, List.map_cons, firstDefined, ih]
  induction contexts with
  | nil => rfl
  | cons context contexts ih =>
    unfold attempts at ih ⊢
    rw [firstContext, halternatives, ih, List.product_cons, firstDefined_append]

/-- The search for a path stops: an attempt comes to an index of `n` digits, which are too many, and
all attempts before it led nowhere. -/
def SearchStops (callLast : Bool) (path : String) (contexts : List Value) (n : Nat) : Prop :=
  ∃ before context alternative behind,
    attempts path contexts = before ++ (context, alternative) :: behind
      ∧ (∀ a ∈ before, walk callLast a.1 a.2 = .ok .undefined) ∧ Stops context alternative n

/-- A walk that stops has met an index with a long run of digits. -/
theorem Stops.hasLongRun {v : Value} {atoms : List String} {n : Nat} (h : Stops v atoms n) :
    ∃ atom ∈ atoms, HasLongRun atom.toList := by
  induction h with
  | here _ hatom => exact ⟨_, List.mem_cons_self, hatom.hasLongRun⟩
  | further _ _ _ ih =>
    obtain ⟨atom, hmem, hlong⟩ := ih
    exact ⟨atom, List.mem_cons_of_mem _ hmem, hlong⟩

/-- The index stands in the path. -/
theorem hasLongRun_of_searchStops {callLast : Bool} {path : String} {contexts : List Value} {n : Nat}
    (h : SearchStops callLast path contexts n) : HasLongRun path.toList := by
  obtain ⟨before, context, alternative, behind, hsplit, -, hstops⟩ := h
  have hmem : (context, alternative) ∈ attempts path contexts := by
    rw [hsplit]
    simp
  have halternative := (List.mem_product.mp hmem).2
  obtain ⟨atom, hatom, hlong⟩ := hstops.hasLongRun
  exact hlong.mono (atom_isInfix halternative hatom)

section

variable {fits : Int → Bool} {contexts : List Value}
  (hcontexts : ∀ context ∈ contexts, context.isDataWith fits = true)
include hcontexts

/-- An attempt stops at one index, or reaches a value, and not both. -/
theorem attempt_cases {path : String} (callLast : Bool) {a : Value × List String}
    (ha : a ∈ attempts path contexts) :
    (∃ n, (∀ k, Stops a.1 a.2 k ↔ k = n)
      ∧ walk callLast a.1 a.2 = .error (.indexTooLong n)) ∨
    ((∀ k, ¬ Stops a.1 a.2 k)
      ∧ ∃ w, walk callLast a.1 a.2 = .ok w ∧ IsReached fits callLast w) := by
  obtain ⟨hcontext, halternative⟩ := List.mem_product.mp ha
  exact walk_cases (hcontexts _ hcontext) (alternatives_ne_nil halternative)

/-- Searching data for a path fails exactly when it stops at an index that is too long. -/
theorem firstContext_eq_error_iff (callLast : Bool) (path : String) (f : Failure) :
    firstContext callLast (alternatives path) contexts = .error f
      ↔ ∃ n, f = .indexTooLong n ∧ SearchStops callLast path contexts n := by
  rw [firstContext_eq_firstDefined, firstDefined_eq_error_iff]
  constructor
  · rintro ⟨before, ⟨context, alternative⟩, behind, hsplit, hbefore, ha⟩
    have hmem : (context, alternative) ∈ attempts path contexts := by simp [hsplit]
    -- An attempt that fails has stopped at an index, since nothing else can go wrong in one.
    obtain ⟨n, hstops, herror⟩ | ⟨-, w, hw, -⟩ := attempt_cases hcontexts callLast hmem
    · rw [ha] at herror
      exact ⟨n, Except.error.inj herror, before, context, alternative, behind, hsplit, hbefore,
        (hstops n).mpr rfl⟩
    · rw [ha] at hw
      cases hw
  · rintro ⟨n, rfl, before, context, alternative, behind, hsplit, hbefore, hn⟩
    have hmem : (context, alternative) ∈ attempts path contexts := by simp [hsplit]
    refine ⟨before, (context, alternative), behind, hsplit, hbefore, ?_⟩
    obtain ⟨k, hstops, herror⟩ | ⟨hgoes, -⟩ := attempt_cases hcontexts callLast hmem
    · rw [(hstops n).mp hn]
      exact herror
    · exact (hgoes n hn).elim

/-- What searching data for a path finds is data, or an operation of a loop that should not be
called. -/
theorem isReached_of_firstContext {callLast : Bool} {path : String} {v : Value}
    (h : firstContext callLast (alternatives path) contexts = .ok v) :
    IsReached fits callLast v := by
  rw [firstContext_eq_firstDefined] at h
  obtain rfl | ⟨a, ha, hv⟩ := firstDefined_eq_ok h
  · exact .data rfl
  · obtain ⟨n, -, herror⟩ | ⟨-, w, hw, hreached⟩ := attempt_cases hcontexts callLast ha
    · exact nomatch hv.symm.trans herror
    · rwa [← Except.ok.inj (hw.symm.trans hv)]

end

/-! ### Paths as expressions -/

/-- What a look-up comes to without its notes. -/
theorem resolve_outcome (path : String) (contexts : List Value) (callLast : Bool) :
    (resolve path contexts callLast).outcome.1
      = firstContext callLast (alternatives path) contexts := by
  unfold resolve Traced.outcome
  cases h : firstContext callLast (alternatives path) contexts with
  | error f => rfl
  | ok v => cases v <;> rfl

/-- What is made of a result without its notes. -/
theorem outcome_map {α β : Type} (t : Traced α) (g : α → β) :
    (do let a ← t; pure (g a) : Traced β).outcome.1 = t.outcome.1.map g := by
  unfold Traced.outcome
  rw [Traced.run_bind]
  obtain ⟨f | a, events⟩ := t.run.run [] <;> rfl

/-- Whether a meaning is to look a path up. -/
def Meaning.isLookup : Meaning → Bool
  | .path | .uncalled | .existence => true
  | _ => false

/-- Whether the operation at the end of a path is called. -/
def Meaning.callsLast : Meaning → Bool
  | .uncalled => false
  | _ => true

/-- What a look-up makes of the value that was found. -/
def Meaning.answer : Meaning → Value → Value
  | .existence, v => .bool !v.isUndefined
  | _, v => v

namespace Evaluator

/-- A look-up answers with what the search through the contexts finds. -/
theorem apply_outcome_of_isLookup (ev : Evaluator) (value : List Char → List Value → Traced Value)
    {m : Meaning} (hm : m.isLookup = true) (path : String) (contexts : List Value) :
    (ev.apply value m path.toList contexts).outcome.1
      = (firstContext m.callsLast (alternatives path) contexts).map m.answer := by
  have hsame : ∀ x : Except Failure Value, x.map (fun v => v) = x := fun x => by cases x <;> rfl
  -- Each kind of look-up has its own answer, and all resolve the path in the same way.
  cases m with
  | path =>
    show (resolve (String.ofList path.toList) contexts true).outcome.1 = _
    rw [String.ofList_toList, resolve_outcome]
    exact (hsame _).symm
  | uncalled =>
    show (resolve (String.ofList path.toList) contexts false).outcome.1 = _
    rw [String.ofList_toList, resolve_outcome]
    exact (hsame _).symm
  | existence =>
    show (do let v ← resolve (String.ofList path.toList) contexts; pure (.bool !v.isUndefined)
      : Traced Value).outcome.1 = _
    rw [outcome_map, String.ofList_toList, resolve_outcome]
    rfl
  | string | negation | upper | constant | verbatim | contextCount | reversed => cases hm

/-- On data, paths that lead nowhere are undefined and a look-up fails in one case: its search comes
to an index of more digits than a number is read from. A path without such a run of digits always
has a value. -/
theorem lookup_outcome (value : List Char → List Value → Traced Value) {m : Meaning}
    (hm : m.isLookup = true) (path : String) {contexts : List Value}
    (hcontexts : ∀ context ∈ contexts, context.isData = true) :
    (∀ f, (standard.apply value m path.toList contexts).outcome.1 = .error f
      ↔ ∃ n, f = .indexTooLong n ∧ SearchStops m.callsLast path contexts n) ∧
    ((∀ a ∈ attempts path contexts, walk m.callsLast a.1 a.2 = .ok .undefined) →
      (standard.apply value m path.toList contexts).outcome.1 = .ok (m.answer .undefined)) ∧
    (¬ HasLongRun path.toList →
      ∃ v, (standard.apply value m path.toList contexts).outcome.1 = .ok v) := by
  have hfails := firstContext_eq_error_iff hcontexts m.callsLast path
  rw [apply_outcome_of_isLookup standard value hm]
  refine ⟨fun f => ?_, fun hnowhere => ?_, fun hshort => ?_⟩
  · rw [← hfails]
    cases firstContext m.callsLast (alternatives path) contexts <;> simp [Except.map]
  · rw [firstContext_eq_firstDefined, firstDefined_of_forall_undefined hnowhere]
    rfl
  · cases h : firstContext m.callsLast (alternatives path) contexts with
    | ok v => exact ⟨m.answer v, rfl⟩
    | error f =>
      obtain ⟨n, -, hstops⟩ := (hfails f).mp h
      exact (hshort (hasLongRun_of_searchStops hstops)).elim

/-- Two contexts, in none of which an alternative leads anywhere. -/
theorem lookup_outcome_nowhere :
    let contexts : List Value :=
      [.map [(.str "x", .list [.map [(.str "k", .int 7)], .type])], .map [(.str "y", .tuple [])]]
    (∀ context ∈ contexts, context.isData = true)
      ∧ (standard.apply standard.valueOf .existence "x/-1/k | y/0".toList contexts).outcome.1
        = .ok (.bool false) := by
  intro contexts
  have hdata : ∀ context ∈ contexts, context.isData = true := by decide
  have hattempts : attempts "x/-1/k | y/0" contexts
      = contexts.flatMap fun c => [(c, ["x", "-1", "k"]), (c, ["y", "0"])] := by rfl
  refine ⟨hdata, (lookup_outcome standard.valueOf rfl _ hdata).2.1 ?_⟩
  rw [hattempts]
  simp only [contexts, List.flatMap_cons, List.flatMap_nil, List.cons_append, List.nil_append,
    List.forall_mem_cons]
  refine ⟨?_, ?_, ?_, ?_, List.forall_mem_nil _⟩ <;> with_unfolding_all rfl

/-- A list is asked for the item at an index. -/
theorem step_list (items : List Value) (atom : String) (call : Bool) :
    step (.list items) atom call = sequenceStep items atom :=
  step_of_itemsOf? rfl atom call

/-- A row of ones is an index. -/
theorem isIndex_ones (n : Nat) : isIndex (String.ofList (List.replicate (n + 1) '1')) = true := by
  have hdigits : (List.replicate n '1').all Number.isDigit = true := by
    rw [List.all_replicate]
    split <;> decide
  unfold isIndex
  rw [String.toList_ofList, List.replicate_succ]
  -- The first character is neither a zero nor a sign.
  simpa using hdigits

/-- All of its digits are ones. -/
theorem indexDigits_ones (n : Nat) :
    indexDigits (String.ofList (List.replicate (n + 1) '1')) = List.replicate (n + 1) '1' := by
  unfold indexDigits
  rw [String.toList_ofList, List.replicate_succ]
  simp

/-- A path that leads into a sequence fails, if its index is one of 4301 digits. -/
theorem overlong_index_fails :
    ∃ contexts : List Value,
      (∀ context ∈ contexts, context.isMapping = true ∧ context.isData = true) ∧
      (standard.apply standard.valueOf .path
          (joinAtoms ["xs".toList, List.replicate 4301 '1']) contexts).outcome.1
        = .error (.indexTooLong 4301) := by
  refine ⟨[.map [(.str "xs", .list [.int 1])]], by decide, ?_⟩
  have hatoms : ∀ b ∈ ["xs".toList, List.replicate 4301 '1'], ∀ c ∈ b, isAtomChar c = true := by
    refine List.forall_mem_cons.mpr
      ⟨List.all_eq_true.mp (by decide), List.forall_mem_singleton.mpr fun c hc => ?_⟩
    rw [List.eq_of_mem_replicate hc]
    decide
  have hpath := alternatives_of_atoms hatoms (.inl (by decide))
  show (resolve (String.ofList (joinAtoms ["xs".toList, List.replicate 4301 '1'])) _).outcome.1 = _
  rw [resolve_outcome, hpath, List.map_cons, List.map_singleton]
  have hfirst : step (.map [(.str "xs", .list [.int 1])]) (String.ofList "xs".toList)
      = .ok (.list [.int 1]) := by
    rw [step_map]
    rfl
  -- The digits are counted by the lemmas on runs of ones, since 4301 of them are too many to run.
  have hsecond : step (.list [.int 1]) (String.ofList (List.replicate 4301 '1'))
      = .error (.indexTooLong 4301) := by
    rw [step_list]
    unfold sequenceStep
    rw [isIndex_ones 4300, indexDigits_ones 4300]
    simp only [List.length_replicate]
    rfl
  rw [firstContext, firstAlternative, walk_cons hfirst rfl (List.cons_ne_nil _ _), walk, hsecond]
  rfl

end Evaluator

end Expr

end AttrTemplates
