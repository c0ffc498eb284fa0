import AttrTemplates.Proofs.Expr.Notes
import AttrTemplates.Proofs.Text.Pieces

/-!
# `AttrTemplates.Proofs.Expr.Names`: the names that an expression looks up

A path starts in a context with its first atom, and a word behind a dollar sign is a path of one
atom. These are all the names that an expression of the standard types can look up, as long as no
placeholder in braces brings in an expression of its own.

* `basis` tells what the value of an expression rests on, with negations left aside, and `namesIn`
  the names in it;
* `Evaluator.valueIn_congr`: in two global contexts that have the same values under these names an
  expression has the same value, and leaves the same notes;
* `Evaluator.valueIn_of_found`: an expression that is one path evaluates to what its atoms lead to;
* `alternatives_of_atoms` reads a path that is put together from atoms.
-/

set_option autoImplicit false

namespace AttrTemplates

namespace Expr

/-! ### Paths put together from atoms -/

/-- A character that neither ends an atom nor is trimmed away. -/
def isAtomChar (c : Char) : Bool := !Text.isBlank c && c != '/' && c != '|'

/-- The characters of an atom are no blanks, and neither of the marks that part paths. -/
theorem isAtomChar_iff {c : Char} :
    isAtomChar c = true ↔ Text.isBlank c = false ∧ c ≠ '/' ∧ c ≠ '|' := by
  unfold isAtomChar
  rw [Bool.and_eq_true, Bool.and_eq_true, Bool.not_eq_true', bne_iff_ne, bne_iff_ne, and_assoc]

/-- Word characters may be in atoms. -/
theorem isAtomChar_of_isWord {c : Char} (h : Text.isWord c = true) : isAtomChar c = true := by
  have hblank : Text.isBlank c = false := by
    rw [Bool.eq_false_iff]
    intro hblank
    rw [Text.isWord_of_isBlank hblank] at h
    cases h
  have hne : ∀ {c'}, Text.isWord c' = false → c ≠ c' := by
    rintro _ hno rfl
    rw [hno] at h
    cases h
  exact isAtomChar_iff.mpr ⟨hblank, hne (by decide), hne (by decide)⟩

/-- Atoms with slashes between them. -/
def joinAtoms : List (List Char) → List Char
  | [] => []
  | [atom] => atom
  | atom :: atoms => atom ++ '/' :: joinAtoms atoms

/-- Atoms that are joined by slashes come apart again. -/
theorem splitAt_joinAtoms {as : List (List Char)} (hne : as ≠ []) (h : ∀ a ∈ as, '/' ∉ a) :
    Text.splitAt '/' (joinAtoms as) = as := by
  induction as with
  | nil => exact (hne rfl).elim
  | cons a as ih =>
    obtain ⟨ha, has⟩ := List.forall_mem_cons.mp h
    cases as with
    | nil => exact Text.splitAt_of_not_mem ha
    | cons b bs =>
      show Text.splitAt '/' (a ++ '/' :: joinAtoms (b :: bs)) = _
      rw [Text.splitAt_append_cons ha, ih (List.cons_ne_nil b bs) has]

/-- A property of all atoms and of the slash is one of the whole path. -/
theorem forall_mem_joinAtoms {P : Char → Prop} {as : List (List Char)}
    (h : ∀ a ∈ as, ∀ c ∈ a, P c) (hslash : P '/') : ∀ c ∈ joinAtoms as, P c := by
  induction as with
  | nil => exact fun c hc => nomatch hc
  | cons a as ih =>
    obtain ⟨ha, has⟩ := List.forall_mem_cons.mp h
    cases as with
    | nil => exact ha
    | cons b bs =>
      exact List.forall_mem_append.mpr ⟨ha, List.forall_mem_cons.mpr ⟨hslash, ih has⟩⟩

/-- A path that is put together from atoms is one alternative with these atoms, if none of them can
be taken for a slash that leads. -/
theorem alternatives_of_atoms {a : List Char} {as : List (List Char)}
    (h : ∀ b ∈ a :: as, ∀ c ∈ b, isAtomChar c = true) (hfirst : a ≠ [] ∨ as = []) :
    alternatives (String.ofList (joinAtoms (a :: as)))
      = [(a :: as).map String.ofList] := by
  have hchar : ∀ b ∈ a :: as, ∀ c ∈ b, Text.isBlank c = false ∧ c ≠ '/' ∧ c ≠ '|' :=
    fun b hb c hc => isAtomChar_iff.mp (h b hb c hc)
  have hblank : ∀ c ∈ joinAtoms (a :: as), Text.isBlank c = false :=
    forall_mem_joinAtoms (fun b hb c hc => (hchar b hb c hc).1) (by decide)
  have hbar : '|' ∉ joinAtoms (a :: as) := fun hmem =>
    forall_mem_joinAtoms (P := (· ≠ '|')) (fun b hb c hc => (hchar b hb c hc).2.2) (by decide)
      _ hmem rfl
  have hslash : ∀ b ∈ a :: as, '/' ∉ b := fun b hb hmem => (hchar b hb _ hmem).2.1 rfl
  have hlead : ∀ rest, joinAtoms (a :: as) ≠ '/' :: rest := by
    -- A slash in front can only come from an empty first atom that others follow, or from the
    -- characters of an atom.
    intro rest heq
    cases a with
    | nil =>
      obtain rfl := hfirst.resolve_left (fun h => h rfl)
      cases heq
    | cons c cs =>
      have hc := (hchar (c :: cs) List.mem_cons_self c List.mem_cons_self).2.1
      cases as with
      | nil => exact hc (List.cons.inj heq).1
      | cons b bs => exact hc (List.cons.inj heq).1
  unfold alternatives
  rw [String.toList_ofList, Text.trim_of_forall hblank, Text.splitAt_of_not_mem hbar,
    List.map_singleton, Text.trim_of_forall hblank]
  unfold atoms
  split
  · rename_i rest heq
    exact (hlead rest heq).elim
  · dsimp only
    rw [splitAt_joinAtoms (List.cons_ne_nil a as) hslash]

/-- A word is a path of one atom. -/
theorem alternatives_of_word {word : List Char} (h : ∀ c ∈ word, Text.isWord c = true) :
    alternatives (String.ofList word) = [[String.ofList word]] := by
  have hatoms : ∀ b ∈ [word], ∀ c ∈ b, isAtomChar c = true :=
    List.forall_mem_singleton.mpr fun c hc => isAtomChar_of_isWord (h c hc)
  have hone := alternatives_of_atoms hatoms (.inr rfl)
  exact hone

/-! ### What an expression rests on -/

/-- What the value of an expression of the standard types rests on: a path, a text with
placeholders, or neither, if its type is not known. -/
inductive Basis where
  | path (path : List Char)
  | text (body : List Char)
  | nothing
  deriving DecidableEq, Repr

/-- The name of the type of an expression. -/
def typeOf (expr : List Char) : String :=
  match (form expr).1 with
  | some name => String.ofList name
  | none => "path"

/-- What the value of an expression rests on. A negation rests on what it negates. -/
def basis (expr : List Char) : Basis :=
  match Evaluator.standard.types.lookup (typeOf expr) with
  | some .negation =>
    if (form expr).2.length < expr.length then basis (form expr).2 else .nothing
  | some .string => .text (form expr).2
  | some .path | some .existence | some .uncalled => .path (form expr).2
  | _ => .nothing
termination_by expr.length

/-- The first atoms of the alternatives of a path. -/
def firstAtoms (path : String) : List String := (alternatives path).filterMap List.head?

/-- The words behind dollar signs in a text. -/
def dollarWords : List Char → List String
  | [] => []
  | '$' :: cs =>
    String.ofList (cs.takeWhile Text.isWord) :: dollarWords (cs.dropWhile Text.isWord)
  | _ :: cs => dollarWords cs
termination_by cs => cs.length
decreasing_by
  · have := List.Sublist.length_le (List.dropWhile_sublist Text.isWord (l := cs))
    simp only [List.length_cons]
    omega
  · simp

/-- The names that an expression looks up. -/
def namesIn (expr : String) : List String :=
  match basis expr.toList with
  | .path path => firstAtoms (String.ofList path)
  | .text body => dollarWords body
  | .nothing => []

/-- Whether a piece of a text is an expression in braces. -/
def Segment.isBraced : Segment → Bool
  | .plain _ => false
  | .braced _ => true

/-- Whether there is no placeholder in braces in an expression. -/
def isUnbraced (expr : String) : Bool :=
  match basis expr.toList with
  | .text body => !(segments body).any Segment.isBraced
  | _ => true

/-! ### Paths -/

/-- Two contexts have the same values under some names. -/
def AgreeOn (names : List String) (g₁ g₂ : Entries) : Prop := ∀ n ∈ names, g₁.get n = g₂.get n

/-- Contexts that agree on some names agree on fewer. -/
theorem AgreeOn.mono {names names' : List String} {g₁ g₂ : Entries} (h : AgreeOn names g₁ g₂)
    (hsub : ∀ n ∈ names', n ∈ names) : AgreeOn names' g₁ g₂ := fun n hn => h n (hsub n hn)

section

variable {g₁ g₂ : Entries}

/-- A mapping is asked for an atom as a key. -/
theorem step_map (entries : Entries) (atom : String) (call : Bool) :
    step (.map entries) atom call = .ok (entries.get atom) := by
  unfold step Value.member?
  cases atom.startsWith "_" <;> rfl

/-- Where an atom leads somewhere, the atoms behind it go on from there. -/
theorem walk_cons {callLast : Bool} {v w : Value} {atom : String} (h : step v atom = .ok w)
    (hw : w.isUndefined = false) {rest : List String} (hrest : rest ≠ []) :
    walk callLast v (atom :: rest) = walk callLast w rest := by
  rw [walk, h]
  · show (if w.isUndefined then pure .undefined else walk callLast w rest : Except Failure Value) = _
    rw [hw]
    rfl
  · exact hrest

/-- A path enters a mapping with its first atom. -/
theorem walk_map_congr (callLast : Bool) {atom : String} (h : g₁.get atom = g₂.get atom)
    (rest : List String) :
    walk callLast (.map g₁) (atom :: rest) = walk callLast (.map g₂) (atom :: rest) := by
  cases rest with
  | nil => rw [walk, walk, step_map, step_map, h]
  | cons b bs => simp only [walk, step_map, h]

/-- An alternative has a first atom. -/
theorem alternatives_ne_nil {path : String} {a : List String} (h : a ∈ alternatives path) :
    a ≠ [] := by
  obtain ⟨piece, -, rfl⟩ := List.mem_map.mp h
  unfold atoms
  exact fun hnil => Text.splitAt_ne_nil _ _ (List.map_eq_nil_iff.mp hnil)

/-- A path leads to the same value in global contexts that agree on its first atoms. -/
theorem firstContext_congr (callLast : Bool) {path : String} (locals : Entries)
    (h : AgreeOn (firstAtoms path) g₁ g₂) :
    firstContext callLast (alternatives path) [.map locals, .map g₁]
      = firstContext callLast (alternatives path) [.map locals, .map g₂] := by
  -- Only the global context differs, so it is enough to try the alternatives there.
  have hglobal : ∀ as : List (List String), (∀ a ∈ as, a ∈ alternatives path) →
      firstAlternative callLast (.map g₁) as = firstAlternative callLast (.map g₂) as := by
    intro as has
    induction as with
    | nil => rfl
    | cons a as ih =>
      obtain ⟨ha, has⟩ := List.forall_mem_cons.mp has
      have hrest := ih has
      cases a with
      | nil => exact (alternatives_ne_nil ha rfl).elim
      | cons atom rest =>
        have hatom := h atom (List.mem_filterMap.mpr ⟨_, ha, rfl⟩)
        rw [firstAlternative, firstAlternative, walk_map_congr callLast hatom, hrest]
  simp only [firstContext, hglobal _ fun _ ha => ha]

/-- A path is resolved alike if the global contexts agree on where its alternatives begin. -/
theorem resolve_congr (callLast : Bool) {path : String} (locals : Entries)
    (h : AgreeOn (firstAtoms path) g₁ g₂) :
    resolve path [.map locals, .map g₁] callLast
      = resolve path [.map locals, .map g₂] callLast := by
  unfold resolve
  rw [firstContext_congr callLast locals h]
  rfl

/-! ### Texts -/

/-- A text without expressions in braces is filled in as it is. -/
theorem fillBraced_of_unbraced (value : List Char → Traced Value) {body : List Char}
    (h : (segments body).any Segment.isBraced = false) :
    Evaluator.fillBraced value (segments body) = pure body := by
  fun_induction segments body with
  | case1 => rfl
  | case2 cs expr rest heq _ ih =>
    rw [List.any_cons] at h
    cases h
  | case3 cs heq ih =>
    rw [Evaluator.fillBraced, ih h, pure_bind]
  | case4 c cs hne ih =>
    rw [Evaluator.fillBraced, ih h, pure_bind]

/-- Words are filled in alike if the global contexts agree on them. -/
theorem fillWords_congr (locals : Entries) {cs : List Char}
    (h : AgreeOn (dollarWords cs) g₁ g₂) :
    Evaluator.standard.fillWords [.map locals, .map g₁] cs
      = Evaluator.standard.fillWords [.map locals, .map g₂] cs := by
  fun_induction dollarWords cs with
  | case1 => rw [Evaluator.fillWords, Evaluator.fillWords]
  | case2 cs ih =>
    have hword : Evaluator.standard.wordValue (cs.takeWhile Text.isWord)
          [.map locals, .map g₁]
        = Evaluator.standard.wordValue (cs.takeWhile Text.isWord) [.map locals, .map g₂] := by
      -- A word is a path of one name, and that name is one of those that the contexts agree on.
      refine resolve_congr true locals fun n hn => h n ?_
      unfold firstAtoms at hn
      rw [alternatives_of_word (List.all_eq_true.mp List.all_takeWhile)] at hn
      exact List.mem_cons.mpr (.inl (List.mem_singleton.mp hn))
    rw [Evaluator.fillWords, Evaluator.fillWords, hword,
      ih (h.mono fun n hn => List.mem_cons_of_mem _ hn)]
  | case3 c cs hne ih =>
    rw [Evaluator.fillWords, Evaluator.fillWords, ih h]
    · exact hne
    · exact hne

/-! ### Expressions -/

namespace Evaluator

/-- The types that are always there mean one of five things. -/
theorem standard_lookup {name : String} {m : Meaning}
    (h : standard.types.lookup name = some m) :
    m = .path ∨ m = .string ∨ m = .negation ∨ m = .existence ∨ m = .uncalled := by
  obtain ⟨front, behind, hsplit, -⟩ := List.lookup_eq_some_iff.mp h
  have hmem : (name, m) ∈ standard.types := by
    rw [hsplit]
    exact List.mem_append_right _ List.mem_cons_self
  simp only [standard, List.mem_cons, Prod.mk.injEq, List.not_mem_nil, or_false] at hmem
  rcases hmem with ⟨-, rfl⟩ | ⟨-, rfl⟩ | ⟨-, rfl⟩ | ⟨-, rfl⟩ | ⟨-, rfl⟩ <;> simp

/-- The value of an expression is what its type makes of its body. -/
theorem valueOf_eq (ev : Evaluator) (expr : List Char) (contexts : List Value) :
    ev.valueOf expr contexts = match ev.types.lookup (typeOf expr) with
      | none => throw (.unknownType (typeOf expr))
      | some m => ev.apply (fun e cs => if e.length < expr.length then ev.valueOf e cs
          else throw .nestingTooDeep) m (form expr).2 (orEmpty contexts) := by
  rw [valueOf]
  unfold typeOf
  obtain ⟨_ | name, body⟩ := form expr <;> rfl

/-- An expression without a colon and without white space is a path. -/
theorem form_of_no_colon {expr : List Char} (hcolon : ':' ∉ expr)
    (hblank : ∀ c ∈ expr, Text.isBlank c = false) : form expr = (none, expr) := by
  have hstart : Text.trimStart expr = expr := by
    unfold Text.trimStart
    cases expr with
    | nil => rfl
    | cons c cs =>
      exact List.dropWhile_cons_of_neg (by rw [hblank c List.mem_cons_self]; exact Bool.false_ne_true)
  unfold form
  rw [hstart]
  dsimp only
  split
  · rename_i body _ hbody
    -- A colon behind the first word would be a colon of the expression.
    have hmem : ':' ∈ expr.dropWhile Text.isWord := by
      rw [hbody]
      exact List.mem_cons_self
    exact (hcolon ((List.dropWhile_sublist Text.isWord).subset hmem)).elim
  · rfl

/-- A path of atoms has the value that is found by following them in the contexts. -/
theorem valueIn_of_found {a : List Char} {as : List (List Char)}
    (h : ∀ b ∈ a :: as, ∀ c ∈ b, isAtomChar c = true ∧ c ≠ ':') (hfirst : a ≠ [] ∨ as = [])
    {locals globals : Entries} {v : Value}
    (hfound : firstContext true [(a :: as).map String.ofList] [.map locals, .map globals] = .ok v)
    (hv : v.isUndefined = false) :
    standard.valueIn locals globals (String.ofList (joinAtoms (a :: as))) = (.ok v, []) := by
  have hatoms : ∀ b ∈ a :: as, ∀ c ∈ b, isAtomChar c = true := fun b hb c hc => (h b hb c hc).1
  have hcolon : ':' ∉ joinAtoms (a :: as) := fun hmem =>
    forall_mem_joinAtoms (P := (· ≠ ':')) (fun b hb c hc => (h b hb c hc).2) (by decide) _ hmem rfl
  have hblank : ∀ c ∈ joinAtoms (a :: as), Text.isBlank c = false :=
    forall_mem_joinAtoms (fun b hb c hc => (isAtomChar_iff.mp (hatoms b hb c hc)).1) (by decide)
  have hform := form_of_no_colon hcolon hblank
  have htype : typeOf (joinAtoms (a :: as)) = "path" := by
    unfold typeOf
    rw [hform]
  unfold valueIn value
  rw [String.toList_ofList, valueOf_eq, htype, hform]
  -- So the expression is looked up as a path, in the local context first and then in the global
  -- one.
  show (resolve (String.ofList (joinAtoms (a :: as))) [.map locals, .map globals] true).outcome = _
  unfold resolve
  rw [alternatives_of_atoms hatoms hfirst, hfound]
  simp only [Traced.ofExcept, pure_bind, hv, Bool.false_eq_true, if_false]
  rfl

/-- If they lead to a value in the local context, what the global context holds makes no
difference. -/
theorem valueIn_of_walk {a : List Char} {as : List (List Char)}
    (h : ∀ b ∈ a :: as, ∀ c ∈ b, isAtomChar c = true ∧ c ≠ ':') (hfirst : a ≠ [] ∨ as = [])
    {locals : Entries} {v : Value}
    (hwalk : walk true (.map locals) ((a :: as).map String.ofList) = .ok v)
    (hv : v.isUndefined = false) (globals : Entries) :
    standard.valueIn locals globals (String.ofList (joinAtoms (a :: as))) = (.ok v, []) := by
  refine valueIn_of_found h hfirst ?_ hv
  simp only [firstContext, firstAlternative, hwalk, bind, Except.bind, hv, Bool.false_eq_true,
    if_false, pure, Except.pure]

/-- A name has the value that it is bound to, first in the local context. -/
theorem valueIn_of_get? {name : String}
    (hname : ∀ c ∈ name.toList, isAtomChar c = true ∧ c ≠ ':') {locals globals : Entries} {v : Value}
    (h : locals.get? name = some v ∨ locals.get? name = none ∧ globals.get? name = some v)
    (hv : v.isUndefined = false) : standard.valueIn locals globals name = (.ok v, []) := by
  have hwalk : ∀ entries : Entries, walk true (.map entries) ([name.toList].map String.ofList)
      = .ok (entries.get name) := by
    intro entries
    rw [List.map_singleton, String.ofList_toList, walk, step_map]
  have hfound : firstContext true [[name.toList].map String.ofList] [.map locals, .map globals]
      = .ok v := by
    simp only [firstContext, firstAlternative, hwalk, Entries.get, bind, Except.bind]
    rcases h with hlocal | ⟨hnone, hglobal⟩
    · simp [hlocal, hv, pure, Except.pure]
    · have hnothing : Value.undefined.isUndefined = true := rfl
      simp [hnone, hglobal, hv, hnothing, pure, Except.pure]
  have hvalue := valueIn_of_found (List.forall_mem_singleton.mpr hname) (.inr rfl) hfound hv
  rwa [joinAtoms, String.ofList_toList] at hvalue

/-- The value of an expression depends on the names that it looks up, and on no others. -/
theorem valueOf_congr (locals : Entries) (expr : List Char)
    (hunbraced : isUnbraced (String.ofList expr) = true)
    (h : AgreeOn (namesIn (String.ofList expr)) g₁ g₂) :
    standard.valueOf expr [.map locals, .map g₁]
      = standard.valueOf expr [.map locals, .map g₂] := by
  unfold isUnbraced at hunbraced
  unfold namesIn at h
  rw [String.toList_ofList] at hunbraced h
  -- What is inside a negation rests on the same as the whole.
  induction hn : expr.length using Nat.strongRecOn generalizing expr with
  | _ n ih =>
    subst hn
    rw [basis] at hunbraced h
    rw [valueOf_eq, valueOf_eq]
    cases hm : standard.types.lookup (typeOf expr) with
    | none => rfl
    | some m =>
      rw [hm] at hunbraced h
      dsimp only [orEmpty]
      rcases standard_lookup hm with rfl | rfl | rfl | rfl | rfl
      · exact resolve_congr true locals h
      · have hbody : (segments (form expr).2).any Segment.isBraced = false := by
          simpa using hunbraced
        simp only [apply, interpolate, fillBraced_of_unbraced _ hbody, pure_bind,
          fillWords_congr locals h]
      · dsimp only [apply] at hunbraced h ⊢
        by_cases hshorter : (form expr).2.length < expr.length
        · rw [if_pos hshorter] at hunbraced h
          rw [if_pos hshorter, if_pos hshorter, ih _ hshorter _ hunbraced h rfl]
        · rw [if_neg hshorter, if_neg hshorter]
      · simp only [apply, resolve_congr true locals h]
      · exact resolve_congr false locals h

/-- An expression has the same value in two global contexts that agree on the names it looks up, and
leaves the same notes. -/
theorem valueIn_congr {expr : String} (locals : Entries) (hunbraced : isUnbraced expr = true)
    (h : AgreeOn (namesIn expr) g₁ g₂) :
    standard.valueIn locals g₁ expr = standard.valueIn locals g₂ expr := by
  unfold valueIn value
  rw [valueOf_congr locals expr.toList]
  · rwa [String.ofList_toList]
  · rwa [String.ofList_toList]

end Evaluator

end

end Expr

end AttrTemplates
