import AttrTemplates.Proofs.Expr.Lookups

/-!
# `AttrTemplates.Proofs.Expr.Types`: the types that evaluation meets

Which types an expression needs is written in it: its own, those in what it negates, and those in
the braces of a text. Data has no say in this, although the text that it contributes to a string is
searched for dollar signs once more. What stands behind one of these is a word, and a word is a name
to be looked up and nothing else (`Evaluator.valueOf_word`).

* `typesIn` lists the types in the order of evaluation, and `firstUnknown` picks the first one that
  is not known;
* `Traced.Tells` is the judgment that evaluation establishes step by step, and
  `Evaluator.types_decide` its result: on mappings of data, evaluation comes to a value if all types
  are known and otherwise fails over the first that is not. Data can get in the way in one case, when
  it holds an integer of so many digits that it cannot be written into a text.
-/

set_option autoImplicit false

namespace AttrTemplates

namespace Expr

/-! ### The types in an expression -/

/-- What is behind the type of an expression is a stretch of it. -/
theorem form_isInfix (expr : List Char) : (form expr).2 <:+: expr := by
  have hstart : Text.trimStart expr <:+: expr := (List.dropWhile_suffix _).isInfix
  unfold form
  dsimp only
  split
  · rename_i body _ hbody
    have hrest : body <:+: Text.trimStart expr := by
      refine (List.suffix_cons ':' body).isInfix.trans ?_
      rw [← hbody]
      exact (List.dropWhile_suffix _).isInfix
    exact (List.dropWhile_suffix _).isInfix.trans (hrest.trans hstart)
  · exact hstart

/-- A type takes up room. -/
theorem length_form_lt {expr name : List Char} (h : (form expr).1 = some name) :
    (form expr).2.length < expr.length := by
  unfold form at h ⊢
  dsimp only at h ⊢
  split at h
  · rename_i c word body hword hbody
    have hstart := (List.dropWhile_sublist Text.isBlank (l := expr)).length_le
    have hbehind := (List.dropWhile_sublist Text.isBlank (l := body)).length_le
    have hsum := length_takeWhile_add_length_dropWhile Text.isWord (Text.trimStart expr)
    rw [hword, hbody, List.length_cons, List.length_cons] at hsum
    unfold Text.trimStart at *
    dsimp only
    omega
  · cases h

/-- An expression in braces stands in the text. -/
theorem braced_isInfix {cs expr : List Char} (h : .braced expr ∈ segments cs) : expr <:+: cs := by
  fun_induction segments cs with
  | case1 => cases h
  | case2 cs e rest hclosing _ ih =>
    rw [← closing?_append hclosing]
    rcases List.mem_cons.mp h with heq | h
    · cases heq
      exact ⟨['$', '{'], '}' :: rest, rfl⟩
    · refine (ih h).trans ⟨'$' :: '{' :: e ++ ['}'], [], ?_⟩
      simp
  | case3 cs _ ih =>
    rcases List.mem_cons.mp h with heq | h
    · cases heq
    · exact (ih h).trans (List.suffix_cons _ _).isInfix
  | case4 c cs _ ih =>
    rcases List.mem_cons.mp h with heq | h
    · cases heq
    · exact (ih h).trans (List.suffix_cons _ _).isInfix

/-- The expressions in braces among the segments of a text. -/
def bracedIn : List Segment → List (List Char)
  | [] => []
  | .plain _ :: ss => bracedIn ss
  | .braced expr :: ss => expr :: bracedIn ss

/-- An expression is in braces in a text if one of its segments is. -/
theorem mem_bracedIn {ss : List Segment} {expr : List Char} :
    expr ∈ bracedIn ss ↔ .braced expr ∈ ss := by
  induction ss with
  | nil => simp [bracedIn]
  | cons s ss ih => cases s <;> simp [bracedIn, ih]

/-- Only a path needs no type. -/
theorem length_form_lt_of_lookup {expr : List Char} {m : Meaning}
    (h : Evaluator.standard.types.lookup (typeOf expr) = some m) (hm : m.isLookup = false) :
    (form expr).2.length < expr.length := by
  cases hname : (form expr).1 with
  | some name => exact length_form_lt hname
  | none =>
    unfold typeOf at h
    rw [hname] at h
    cases h
    cases hm

/-- The types that the evaluation of an expression needs, in order. -/
def typesIn (expr : List Char) : List String :=
  typeOf expr :: match _h : Evaluator.standard.types.lookup (typeOf expr) with
    | some .negation => typesIn (form expr).2
    | some .string => (bracedIn (segments (form expr).2)).attach.flatMap fun e => typesIn e.1
    | _ => []
termination_by expr.length
decreasing_by
  · exact length_form_lt_of_lookup _h rfl
  · exact Nat.lt_trans (length_lt_of_braced_mem (mem_bracedIn.mp e.2))
      (length_form_lt_of_lookup _h rfl)

/-- The types in a negation are its own and those in what it negates. -/
theorem typesIn_of_negation {expr : List Char}
    (h : Evaluator.standard.types.lookup (typeOf expr) = some .negation) :
    typesIn expr = typeOf expr :: typesIn (form expr).2 := by
  rw [typesIn]
  split <;> simp_all

/-- The types in a string are its own and those in its braces, from left to right. -/
theorem typesIn_of_string {expr : List Char}
    (h : Evaluator.standard.types.lookup (typeOf expr) = some .string) :
    typesIn expr = typeOf expr :: (bracedIn (segments (form expr).2)).flatMap typesIn := by
  rw [typesIn]
  split <;> simp_all [List.flatMap_def]

/-- Whether a type is not among those that are always there. -/
def isUnknown (name : String) : Bool := (Evaluator.standard.types.lookup name).isNone

/-- The first type in an expression that is not known. -/
def firstUnknown (expr : List Char) : Option String := (typesIn expr).find? isUnknown

/-- An unknown type in front is the first one. -/
theorem firstUnknown_of_none {expr : List Char}
    (h : Evaluator.standard.types.lookup (typeOf expr) = none) :
    firstUnknown expr = some (typeOf expr) := by
  have hunknown : isUnknown (typeOf expr) = true := by rw [isUnknown, h]; rfl
  unfold firstUnknown
  rw [typesIn, List.find?_cons_of_pos hunknown]

/-- A known type in front is not the unknown one that is looked for. -/
theorem find?_typeOf {expr : List Char} {m : Meaning}
    (h : Evaluator.standard.types.lookup (typeOf expr) = some m) (rest : List String) :
    (typeOf expr :: rest).find? isUnknown = rest.find? isUnknown := by
  have hknown : ¬ isUnknown (typeOf expr) = true := by rw [isUnknown, h]; exact Bool.false_ne_true
  exact List.find?_cons_of_neg hknown

/-- Look-ups hold no further expressions, so none of their types is unknown. -/
theorem firstUnknown_of_isLookup {expr : List Char} {m : Meaning}
    (h : Evaluator.standard.types.lookup (typeOf expr) = some m) (hm : m.isLookup = true) :
    firstUnknown expr = none := by
  unfold firstUnknown
  rw [typesIn, find?_typeOf h]
  split
  · rename_i hneg
    obtain rfl := Option.some.inj (h.symm.trans hneg)
    cases hm
  · rename_i hstring
    obtain rfl := Option.some.inj (h.symm.trans hstring)
    cases hm
  · rfl

/-! ### A judgment on evaluation -/

end Expr

/-- A computation comes to a result with a property if no type is unknown to it, and otherwise fails
over the one that is. Only where `long` holds can it fail over an integer that is too long. -/
structure Traced.Tells {α : Type} (long : Prop) (unknown : Option String) (P : α → Prop)
    (t : Traced α) : Prop where
  run : ∀ events, match (t.run.run events).1 with
    | .ok a => unknown = none ∧ P a
    | .error (.unknownType name) => unknown = some name
    | .error .integerTooLong => long
    | .error _ => False

namespace Traced

variable {α β : Type} {long : Prop} {P : α → Prop} {Q : β → Prop}

/-- A result that is known beforehand tells of no unknown type. -/
theorem tells_pure {a : α} (h : P a) : (pure a : Traced α).Tells long none P := ⟨fun _ => ⟨rfl, h⟩⟩

/-- A note tells of no unknown type. -/
theorem tells_note (e : Event) : (note e).Tells long none fun _ => True := ⟨fun _ => ⟨rfl, trivial⟩⟩

/-- An expression of unknown type fails by its name. -/
theorem tells_unknownType (name : String) :
    (throw (.unknownType name) : Traced α).Tells long (some name) P := ⟨fun _ => rfl⟩

/-- Less may be told of the result. -/
theorem Tells.imp {t : Traced α} {P' : α → Prop} {u : Option String} (ht : t.Tells long u P)
    (h : ∀ a, P a → P' a) : t.Tells long u P' := by
  refine ⟨fun events => ?_⟩
  have hrun := ht.run events
  split at hrun
  · exact ⟨hrun.1, h _ hrun.2⟩
  · exact hrun
  · exact hrun
  · exact hrun

/-- In a sequence the first unknown type is that of the first part, if there is one. -/
theorem Tells.bind {t : Traced α} {f : α → Traced β} {u w : Option String}
    (ht : t.Tells long u P) (hf : ∀ a, P a → (f a).Tells long w Q) :
    (t >>= f).Tells long (u.or w) Q := by
  refine ⟨fun events => ?_⟩
  have hfirst := ht.run events
  rw [run_bind]
  generalize t.run.run events = x at hfirst
  obtain ⟨e | a, events'⟩ := x
  · -- A failure of the first part is one of the whole.
    cases e with
    | unknownType name =>
      obtain rfl := hfirst
      rfl
    | integerTooLong => exact hfirst
    | _ => exact hfirst.elim
  · obtain ⟨rfl, ha⟩ := hfirst
    exact (hf a ha).run events'

/-- What is made of a result meets no further type. -/
theorem Tells.map {t : Traced α} {g : α → β} {u : Option String} (ht : t.Tells long u P)
    (h : ∀ a, P a → Q (g a)) : (do let a ← t; pure (g a) : Traced β).Tells long u Q := by
  have hmap := ht.bind (w := none) fun a ha => tells_pure (h a ha)
  rwa [Option.or_none] at hmap

/-- What the types that a computation needs promise of it: a value, if none of them is unknown. -/
def promise : Option String → Except Failure Unit
  | none => .ok ()
  | some name => .error (.unknownType name)

/-- What is told of is the outcome, but for an integer that is too long. -/
theorem Tells.outcome {t : Traced α} {u : Option String} (ht : t.Tells long u P) :
    t.outcome.1.map (fun _ => ()) = promise u ∨ t.outcome.1 = .error .integerTooLong ∧ long := by
  have hrun := ht.run []
  unfold Traced.outcome
  split at hrun
  · rename_i heq
    left
    rw [heq, hrun.1]
    rfl
  · rename_i heq
    left
    rw [heq, hrun]
    rfl
  · rename_i heq
    exact .inr ⟨heq, hrun⟩
  · exact hrun.elim

end Traced

/-- A value is written, if it is not too long. -/
theorem Value.writtenOrNothing_tells {long : Prop} {v : Value} (h : v.isTooLong = true → long) :
    (Traced.ofExcept v.writtenOrNothing).Tells long none fun _ => True := by
  have hwritten : (Traced.ofExcept v.written).Tells long none fun _ => True := by
    unfold Value.written
    split
    · rename_i hlong
      exact ⟨fun _ => h hlong⟩
    · exact Traced.tells_pure trivial
  unfold Value.writtenOrNothing
  split
  · exact Traced.tells_pure trivial
  · exact hwritten

namespace Expr

/-! ### Looking up and filling in -/

/-- Some integer that fits is too long to be written. -/
def FitsLong (fits : Int → Bool) : Prop := ∃ n, fits n = true ∧ isLongInteger n = true

section

variable {fits : Int → Bool}

/-- What a look-up reaches can be written, if all integers that fit can. -/
theorem IsReached.isTooLong {call : Bool} {v : Value} (h : IsReached fits call v)
    (hlong : v.isTooLong = true) : FitsLong fits := by
  by_contra hno
  have hfits : ∀ n, fits n = true → isLongInteger n = false :=
    fun n hn => Bool.eq_false_iff.mpr fun hn' => hno ⟨n, hn, hn'⟩
  cases h with
  | data h =>
    rw [v.isTooLong_eq_false hfits h] at hlong
    cases hlong
  | uncalled => cases hlong

variable {contexts : List Value}

/-- A path that does not stop is looked up without failing. -/
theorem resolve_tells (hcontexts : ∀ context ∈ contexts, context.isDataWith fits = true)
    {long : Prop} {path : String} {callLast : Bool}
    (hpath : ∀ n, ¬ SearchStops callLast path contexts n) :
    (resolve path contexts callLast).Tells long none (IsReached fits callLast) := by
  unfold resolve
  cases h : firstContext callLast (alternatives path) contexts with
  | error f =>
    obtain ⟨n, -, hstops⟩ := (firstContext_eq_error_iff hcontexts callLast path f).mp h
    exact (hpath n hstops).elim
  | ok v =>
    have hv := isReached_of_firstContext hcontexts h
    refine (Traced.tells_pure hv).bind (u := none) (w := none) fun w hw => ?_
    split
    · exact (Traced.tells_note _).bind fun _ _ => Traced.tells_pure hw
    · exact Traced.tells_pure hw

/-- The first step into a mapping is no index, so a single name never stops. -/
theorem not_searchStops_of_word (hcontexts : ∀ context ∈ contexts, context.isMapping = true)
    {word : List Char} (hword : ∀ c ∈ word, Text.isWord c = true) (callLast : Bool) (n : Nat) :
    ¬ SearchStops callLast (String.ofList word) contexts n := by
  rintro ⟨before, context, alternative, behind, hsplit, -, hstops⟩
  have hmem : (context, alternative) ∈ attempts (String.ofList word) contexts := by simp [hsplit]
  obtain ⟨hcontext, halternative⟩ := List.mem_product.mp hmem
  rw [alternatives_of_word hword] at halternative
  obtain rfl := List.mem_singleton.mp halternative
  cases hstops with
  | here hv =>
    have hmapping := hcontexts context hcontext
    cases context with
    | map => cases hv
    | _ => cases hmapping
  | further _ _ hnothing => cases hnothing

end

/-- A property of all contexts, and of the empty one, is a property of those that are searched. -/
theorem orEmpty_forall {P : Value → Prop} {contexts : List Value} (h : ∀ c ∈ contexts, P c)
    (hempty : P (.map [])) : ∀ c ∈ orEmpty contexts, P c := by
  cases contexts with
  | nil => exact List.forall_mem_singleton.mpr hempty
  | cons c cs => exact h

/-- Where there is no dollar sign, there is no placeholder. -/
theorem segments_append_of_not_mem {cs : List Char} (h : '$' ∉ cs) (rest : List Char) :
    segments (cs ++ rest) = cs.map .plain ++ segments rest := by
  induction cs with
  | nil => rfl
  | cons c cs ih =>
    obtain ⟨hc, hcs⟩ := not_or.mp (mt List.mem_cons.mpr h)
    rw [List.cons_append, segments, ih hcs]
    · rfl
    · rintro _ rfl
      exact (hc rfl).elim

namespace Evaluator

/-- A word is no typed expression: its value is that of a name. -/
theorem form_of_word {word : List Char} (h : ∀ c ∈ word, Text.isWord c = true) :
    form word = (none, word) := by
  have hblank : ∀ c ∈ word, Text.isBlank c = false :=
    fun c hc => (isAtomChar_iff.mp (isAtomChar_of_isWord (h c hc))).1
  have hcolon : ':' ∉ word := fun hmem => absurd (h ':' hmem) (by decide)
  exact form_of_no_colon hcolon hblank

/-- Nor is there a word to fill in. -/
theorem fillWords_append_of_not_mem (ev : Evaluator) (contexts : List Value) {cs : List Char}
    (h : '$' ∉ cs) (rest : List Char) :
    ev.fillWords contexts (cs ++ rest) = (cs ++ ·) <$> ev.fillWords contexts rest := by
  induction cs with
  | nil => simp
  | cons c cs ih =>
    obtain ⟨hc, hcs⟩ := not_or.mp (mt List.mem_cons.mpr h)
    rw [List.cons_append, fillWords, ih hcs]
    · simp
    · exact fun hdollar => (hc hdollar.symm).elim

/-- A text without dollar signs is filled in as it is. -/
theorem interpolate_of_not_mem (ev : Evaluator) (value : List Char → List Value → Traced Value)
    {body : List Char} (h : '$' ∉ body) (contexts : List Value) :
    ev.interpolate value body contexts = pure body := by
  have hsegments := segments_append_of_not_mem h []
  have hwords := ev.fillWords_append_of_not_mem contexts h []
  rw [List.append_nil] at hsegments hwords
  rw [interpolate, fillBraced_of_unbraced, pure_bind, hwords, fillWords]
  · simp
  · simp [hsegments, segments, Segment.isBraced]

/-- A word is evaluated as what `path` means, whatever that is. -/
theorem valueOf_word {ev : Evaluator} {word : List Char} (h : ∀ c ∈ word, Text.isWord c = true)
    (contexts : List Value) : ev.valueOf word contexts = ev.wordValue word contexts := by
  have htype : typeOf word = "path" := by
    unfold typeOf
    rw [form_of_word h]
  have htext : ∀ value, ev.interpolate value word (orEmpty contexts) = pure word := fun value =>
    ev.interpolate_of_not_mem value (fun hmem => absurd (h '$' hmem) (by decide)) _
  rw [valueOf_eq, htype, form_of_word h, wordValue]
  cases ev.types.lookup "path" with
  | none => rfl
  | some m =>
    cases m with
    | string => simp [apply, htext]
    | upper => simp [apply, htext]
    | negation => simp [apply]
    | reversed => simp [apply]
    | _ => rfl

section

variable {fits : Int → Bool} {contexts : List Value}
  (hmapping : ∀ context ∈ contexts, context.isMapping = true)
  (hdata : ∀ context ∈ contexts, context.isDataWith fits = true)
include hmapping hdata

/-- Words behind dollar signs are names, whatever the text that they stand in. -/
theorem fillWords_tells (cs : List Char) :
    (standard.fillWords contexts cs).Tells (FitsLong fits) none
      fun _ => True := by
  fun_induction dollarWords cs with
  | case1 =>
    rw [fillWords]
    exact Traced.tells_pure trivial
  | case2 cs ih =>
    have hword : ∀ c ∈ cs.takeWhile Text.isWord, Text.isWord c = true :=
      List.all_eq_true.mp List.all_takeWhile
    have hgoes := not_searchStops_of_word (orEmpty_forall hmapping rfl) hword true
    rw [fillWords]
    refine (resolve_tells (orEmpty_forall hdata rfl) hgoes).bind fun v hv => ?_
    refine (Value.writtenOrNothing_tells hv.isTooLong).bind fun here _ => ?_
    exact ih.map fun rest _ => trivial
  | case3 c cs hne ih =>
    rw [fillWords]
    · exact ih.map fun rest _ => trivial
    · exact hne

end

/-- Expressions in braces are evaluated from the first to the last. -/
theorem fillBraced_tells {long : Prop} {value : List Char → Traced Value} (ss : List Segment)
    (h : ∀ e ∈ bracedIn ss, (value e).Tells long (firstUnknown e) fun v => v.isTooLong = true → long) :
    (fillBraced value ss).Tells long (((bracedIn ss).flatMap typesIn).find? isUnknown)
      fun _ => True := by
  induction ss with
  | nil => exact Traced.tells_pure trivial
  | cons s ss ih =>
    cases s with
    | plain c =>
      exact (ih h).map fun rest _ => trivial
    | braced e =>
      obtain ⟨he, hss⟩ := List.forall_mem_cons.mp h
      rw [bracedIn, List.flatMap_cons, List.find?_append]
      refine he.bind fun v hv => ?_
      refine (Value.writtenOrNothing_tells hv).bind (u := none) fun here _ => ?_
      exact (ih hss).map fun rest _ => trivial

/-- Evaluation fails over the first type that is not known, or else comes to a value. If integers
that fit can be written, it never fails over one. -/
theorem valueOf_tells {fits : Int → Bool} {expr : List Char} (hexpr : ¬ HasLongRun expr)
    {contexts : List Value} (hmapping : ∀ context ∈ contexts, context.isMapping = true)
    (hdata : ∀ context ∈ contexts, context.isDataWith fits = true) :
    (standard.valueOf expr contexts).Tells (FitsLong fits)
      (firstUnknown expr)
      fun v => v.isTooLong = true → FitsLong fits := by
  -- Inside an expression only shorter ones are evaluated.
  induction hn : expr.length using Nat.strongRecOn generalizing expr contexts with
  | _ n ih =>
    subst hn
    have hmapping' := orEmpty_forall hmapping rfl
    have hdata' := orEmpty_forall hdata rfl
    rw [valueOf_eq]
    cases hm : standard.types.lookup (typeOf expr) with
    | none =>
      rw [firstUnknown_of_none hm]
      exact Traced.tells_unknownType _
    | some m =>
      dsimp only
      have hbody : ¬ HasLongRun (form expr).2 := fun hlong => hexpr (hlong.mono (form_isInfix expr))
      have hlookup : ∀ callLast, (resolve (String.ofList (form expr).2) (orEmpty contexts)
          callLast).Tells (FitsLong fits) none
          (IsReached fits callLast) := by
        intro callLast
        refine resolve_tells hdata' fun n hstops => hbody ?_
        have hlong := hasLongRun_of_searchStops hstops
        rwa [String.toList_ofList] at hlong
      have hinside : ∀ e, ¬ HasLongRun e → e.length < expr.length →
          (if e.length < expr.length then standard.valueOf e (orEmpty contexts)
            else throw .nestingTooDeep : Traced Value).Tells
          (FitsLong fits) (firstUnknown e)
          fun v => v.isTooLong = true → FitsLong fits := by
        intro e he hshorter
        rw [if_pos hshorter]
        exact ih e.length hshorter he hmapping' hdata' rfl
      rcases standard_lookup hm with rfl | rfl | rfl | rfl | rfl
      · rw [firstUnknown_of_isLookup hm rfl]
        exact (hlookup true).imp fun v hv => hv.isTooLong
      · have hshorter := length_form_lt_of_lookup hm rfl
        unfold firstUnknown
        rw [typesIn_of_string hm, find?_typeOf hm]
        have hbraced := fillBraced_tells (segments (form expr).2) fun e he =>
          hinside e (fun hlong => hbody (hlong.mono (braced_isInfix (mem_bracedIn.mp he))))
            (Nat.lt_trans (length_lt_of_braced_mem (mem_bracedIn.mp he)) hshorter)
        have hfilled := hbraced.bind fun filled _ => fillWords_tells hmapping' hdata' filled
        rw [Option.or_none] at hfilled
        exact hfilled.map fun cs _ hlong => nomatch hlong
      · have hshorter := length_form_lt_of_lookup hm rfl
        unfold firstUnknown
        rw [typesIn_of_negation hm, find?_typeOf hm]
        exact (hinside _ hbody hshorter).map fun v _ hlong => nomatch hlong
      · rw [firstUnknown_of_isLookup hm rfl]
        exact (hlookup true).map fun v _ hlong => nomatch hlong
      · rw [firstUnknown_of_isLookup hm rfl]
        exact (hlookup false).imp fun v hv => hv.isTooLong

/-- The words of a text are filled in alike by all evaluators in which paths are paths, whatever
types they know besides. -/
theorem fillWords_eq_standard {ev : Evaluator} (hpath : ev.types.lookup "path" = some .path)
    (contexts : List Value) (text : List Char) :
    ev.fillWords contexts text = standard.fillWords contexts text := by
  have hword : ∀ word, ev.wordValue word contexts = standard.wordValue word contexts := by
    intro word
    unfold wordValue
    rw [hpath]
    rfl
  fun_induction dollarWords text with
  | case1 => rw [fillWords, fillWords]
  | case2 cs ih => rw [fillWords, fillWords, hword, ih]
  | case3 c cs hne ih =>
    rw [fillWords, fillWords, ih]
    · exact hne
    · exact hne

/-- The words behind dollars are of word characters. -/
theorem all_isWord_of_mem_dollarWords {text : List Char} {word : String}
    (h : word ∈ dollarWords text) : ∀ c ∈ word.toList, Text.isWord c = true := by
  fun_induction dollarWords text with
  | case1 => cases h
  | case2 cs ih =>
    rcases List.mem_cons.mp h with rfl | h
    · rw [String.toList_ofList]
      exact List.all_eq_true.mp List.all_takeWhile
    · exact ih h
  | case3 c cs hne ih => exact ih h

/-- The types in an expression without long runs of digits decide on mappings of data whether its
evaluation comes to a value, and over which type it fails if not; what stands in its way, if anything
does, is an integer in the data that is too long. The words that data can bring into a text are names
to be looked up, as single atoms and through paths alone. -/
theorem types_decide (expr : String) (hexpr : ¬ HasLongRun expr.toList) :
    (∀ contexts : List Value,
      (∀ context ∈ contexts, context.isMapping = true ∧ context.isData = true) →
      (standard.value expr contexts).outcome.1.map (fun _ => ())
          = Traced.promise (firstUnknown expr.toList) ∨
        (standard.value expr contexts).outcome.1 = .error .integerTooLong
          ∧ ∃ context ∈ contexts, context.isShortData = false) ∧
    (∀ text : List Char, ∀ word ∈ dollarWords text,
      form word.toList = (none, word.toList) ∧ alternatives word = [[word]]
        ∧ ∀ contexts, standard.value word contexts = resolve word (orEmpty contexts)) ∧
    (∀ ev : Evaluator, ev.types.lookup "path" = some .path →
      ∀ contexts text, ev.fillWords contexts text = standard.fillWords contexts text) := by
  refine ⟨fun contexts hcontexts => ?_, fun text word hmem => ?_, fun ev hpath =>
    fillWords_eq_standard hpath⟩
  · have hmapping : ∀ context ∈ contexts, context.isMapping = true := fun c hc => (hcontexts c hc).1
    -- `valueOf_tells` holds under any bound on the integers in the data. Under the one that
    -- excludes integers that are too long, its second disjunct contradicts itself.
    by_cases hshort : ∀ context ∈ contexts, context.isShortData = true
    · refine (valueOf_tells hexpr hmapping hshort).outcome.imp_right ?_
      rintro ⟨-, n, hfits, hlong⟩
      simp [hlong] at hfits
    · push Not at hshort
      obtain ⟨context, hmem, hlong⟩ := hshort
      have hdata : ∀ context ∈ contexts, context.isData = true := fun c hc => (hcontexts c hc).2
      refine (valueOf_tells hexpr hmapping hdata).outcome.imp_right fun ⟨herror, _⟩ => ?_
      exact ⟨herror, context, hmem, Bool.eq_false_iff.mpr hlong⟩
  · have hword := all_isWord_of_mem_dollarWords hmem
    refine ⟨form_of_word hword, ?_, fun contexts => ?_⟩
    · have halternatives := alternatives_of_word hword
      rwa [String.ofList_toList] at halternatives
    · unfold value
      rw [valueOf_word hword]
      show resolve (String.ofList word.toList) _ true = _
      rw [String.ofList_toList]

/-- In a short text no run of digits is too long. -/
theorem not_hasLongRun_of_length_le {cs : List Char} (h : cs.length ≤ Number.maxDigits) :
    ¬ HasLongRun cs := by
  rintro ⟨run, hrun, -, hlong⟩
  have := hrun.length_le
  omega

/-- An unknown type behind data full of what would be typed expressions. -/
theorem types_decide_behindData :
    let expr := "string:$\x7ba\x7d $b $\x7bnot:nope:x\x7d $\x7bbad:y\x7d"
    let context : Value :=
      .map [(.str "a", .str "$\x7bbad:1\x7d $b :\x7b"), (.str "b", .list [.str "bad:"])]
    ¬ HasLongRun expr.toList ∧ context.isShortData = true
      ∧ (standard.value expr [context]).outcome.1.map (fun _ => ()) = .error (.unknownType "nope") := by
  intro expr context
  have hexpr : ¬ HasLongRun expr.toList := not_hasLongRun_of_length_le (by decide)
  have hshort : context.isShortData = true := by decide
  have hunknown : firstUnknown expr.toList = some "nope" := by decide +kernel
  have hdecide := (types_decide expr hexpr).1 [context] (by decide)
  rw [hunknown] at hdecide
  refine ⟨hexpr, hshort, hdecide.resolve_right ?_⟩
  rintro ⟨-, c, hmem, hlong⟩
  rw [List.mem_singleton.mp hmem, hshort] at hlong
  cases hlong

/-- A text of one word is the value of that name, as it is written. -/
theorem value_string_word {v : Value} (hv : v.isUndefined = false) :
    standard.value "string:$n" [.map [(.str "n", v)]] = (do
      let here ← Traced.ofExcept v.writtenOrNothing
      pure (.str here)) := by
  have hname : firstContext true (alternatives (String.ofList ['n'])) [.map [(.str "n", v)]] = .ok v := by
    rw [alternatives_of_word (List.forall_mem_singleton.mpr (by decide))]
    simp only [firstContext, firstAlternative, walk, step_map]
    cases v <;> rfl
  have hword : standard.wordValue ['n'] [.map [(.str "n", v)]] = pure v := by
    show resolve (String.ofList ['n']) [.map [(.str "n", v)]] true = _
    unfold resolve
    rw [hname]
    simp [Traced.ofExcept, hv]
  have htype : typeOf "string:$n".toList = "string" := by rfl
  have hbody : (form "string:$n".toList).2 = ['$', 'n'] := by rfl
  unfold value
  rw [valueOf_eq, htype, hbody]
  show (do
    let cs ← standard.interpolate _ ['$', 'n'] [.map [(.str "n", v)]]
    pure (.str (String.ofList cs)) : Traced Value) = _
  -- No braces: the text is given to the pass over words alone, which finds one word and no rest.
  unfold interpolate
  rw [fillBraced_of_unbraced _ (by decide +kernel), pure_bind, fillWords]
  rw [show (['n'].takeWhile Text.isWord) = ['n'] by rfl,
    show (['n'].dropWhile Text.isWord) = [] by rfl, hword, fillWords]
  simp

/-- An integer is written in digits unless there are too many. -/
theorem writtenOrNothing_int (n : Int) : (Value.int n).writtenOrNothing
    = if isLongInteger n then .error .integerTooLong else .ok (toString n) := by
  show (Value.int n).written = _
  unfold Value.written
  rw [Value.isTooLong]
  rfl

/-- A number of 4301 digits makes an expression fail in which all types are known. -/
theorem long_integer_fails :
    ∃ n : Int, (Value.map [(.str "n", .int n)]).isData = true ∧ firstUnknown "string:$n".toList = none
      ∧ (standard.value "string:$n" [.map [(.str "n", .int n)]]).outcome.1 = .error .integerTooLong
      ∧ (standard.value "string:$n" [.map [(.str "n", .int 1)]]).outcome.1 = .ok (.str "1") := by
  have hlong : isLongInteger (Nat.pow 10 Number.maxDigits : Int) = true := by
    unfold isLongInteger
    rw [Int.natAbs_natCast]
    exact decide_eq_true (Nat.le_refl _)
  generalize (Nat.pow 10 Number.maxDigits : Int) = n at hlong
  refine ⟨n, rfl, by decide +kernel, ?_, ?_⟩
  · rw [value_string_word rfl, writtenOrNothing_int, if_pos hlong]
    rfl
  · have hshort : isLongInteger 1 = false := by
      have hmore : ∀ k, k ≠ 0 → 1 < Nat.pow 10 k := fun k hk => Nat.one_lt_pow hk (by decide)
      unfold isLongInteger
      exact decide_eq_false (Nat.not_le.mpr (hmore Number.maxDigits (by decide)))
    rw [value_string_word rfl, writtenOrNothing_int, hshort]
    rfl

end Evaluator

end Expr

end AttrTemplates
