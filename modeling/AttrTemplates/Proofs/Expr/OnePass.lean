import AttrTemplates.Proofs.Expr.Types

/-!
# `AttrTemplates.Proofs.Expr.OnePass`: texts filled in in one pass

Placeholders are filled in in two passes, and the second goes over what the first has made of the
text: first those in braces, then the words behind the dollar signs that are there by then. A pass
that never looks back (`parts`, `fillParts`) gives the same text if the first pass makes no
placeholders of its own. It can do so in two ways: a value has a dollar sign in it, or a value comes
directly behind a word and prolongs it.

* `firstPass_plain_iff` and `firstPass_braced_iff` are the steps of the first pass,
  `secondPass_append_iff` and `secondPass_dollar_iff` those of the second;
* `passes_braces_iff`, `passes_word_iff` and `passes_cons_iff` tell what both make of each part. A
  word needs a fact on how it ends (`head_of_firstPass`): unless an expression in braces follows,
  the first pass keeps the character behind it, which is no character of a word;
* `passes_iff` goes through the parts, and `interpolated_in_one_pass` says it of the texts.
-/

set_option autoImplicit false

namespace AttrTemplates

/-- A sequence of two computations succeeds just when both do. -/
theorem bind_eq_ok_iff {α β : Type} {x : Except Failure α} {f : α → Except Failure β} {b : β} :
    (x >>= f) = .ok b ↔ ∃ a, x = .ok a ∧ f a = .ok b := by
  cases x with
  | error e =>
    constructor
    · intro h
      cases h
    · rintro ⟨a, h, -⟩
      cases h
  | ok a => exact ⟨fun h => ⟨a, rfl, h⟩, fun ⟨_, rfl, h⟩ => h⟩

/-- A result that is given at once is that result. -/
theorem pure_eq_ok_iff {α : Type} {a b : α} : (pure a : Except Failure α) = .ok b ↔ b = a :=
  ⟨fun h => (Except.ok.inj h).symm, fun h => congrArg Except.ok h.symm⟩

/-- One text behind another comes out just when both do. -/
theorem append_eq_ok_iff {x y : Except Failure (List Char)} {t : List Char} :
    (do
      let here ← x
      let rest ← y
      pure (here ++ rest)) = .ok t
      ↔ ∃ here rest, x = .ok here ∧ y = .ok rest ∧ t = here ++ rest := by
  simp only [bind_eq_ok_iff, pure_eq_ok_iff, exists_and_left]

namespace Expr

/-! ### One pass -/

/-- A piece of a text, as one pass from left to right finds it: a character as it is, an expression
in braces, or the word behind another dollar sign. -/
inductive Part where
  | plain (c : Char)
  | braced (expr : List Char)
  | word (name : List Char)
  deriving DecidableEq, Repr

/-- The expression in braces at the start of a text, and what follows it. -/
def braces? : List Char → Option (List Char × List Char)
  | '{' :: cs => closing? cs
  | _ => none

/-- Behind braces there is less text than before. -/
theorem length_lt_of_braces? {cs expr rest : List Char} (h : braces? cs = some (expr, rest)) :
    rest.length < cs.length := by
  unfold braces? at h
  split at h
  · have hlength := closing?_length h
    simp only [List.length_cons]
    omega
  · cases h

/-- The parts of a text. -/
def parts : List Char → List Part
  | [] => []
  | '$' :: cs =>
    match _h : braces? cs with
    | some (expr, rest) => .braced expr :: parts rest
    | none => .word (cs.takeWhile Text.isWord) :: parts (cs.dropWhile Text.isWord)
  | c :: cs => .plain c :: parts cs
termination_by cs => cs.length
decreasing_by
  · have := length_lt_of_braces? _h
    simp only [List.length_cons]
    omega
  · have := (List.dropWhile_sublist Text.isWord (l := cs)).length_le
    simp only [List.length_cons]
    omega
  · simp

/-- The expression that stands in a part. -/
def Part.expression? : Part → Option (List Char)
  | .plain _ => none
  | .braced expr | .word expr => some expr

/-- Whether a part is an expression in braces. -/
def Part.isBraced : Part → Bool
  | .braced _ => true
  | _ => false

/-- Whether some word ends where an expression in braces begins. -/
def abuts : List Part → Bool
  | .word _ :: .braced _ :: _ => true
  | _ :: ps => abuts ps
  | [] => false

/-- If nothing abuts in the parts, nothing does behind the first one. -/
theorem abuts_of_cons {p : Part} {ps : List Part} (h : abuts (p :: ps) = false) :
    abuts ps = false := by
  unfold abuts at h
  split at h
  · cases h
  · rename_i heq
    cases heq
    exact h
  · rename_i heq
    cases heq

/-- A word that nothing abuts is not followed by braces. -/
theorem not_isBraced_of_abuts {name : List Char} {ps : List Part}
    (h : abuts (.word name :: ps) = false) : ∀ p ∈ ps.head?, p.isBraced = false := by
  cases ps with
  | nil => simp
  | cons p ps =>
    cases p with
    | braced expr => cases h
    | _ => simp [Part.isBraced]

/-- Parts as text, each expression replaced by its text. -/
def fillParts (text : List Char → Except Failure (List Char)) :
    List Part → Except Failure (List Char)
  | [] => .ok []
  | .plain c :: ps => do
    let rest ← fillParts text ps
    pure (c :: rest)
  | .braced expr :: ps | .word expr :: ps => do
    let here ← text expr
    let rest ← fillParts text ps
    pure (here ++ rest)

/-- In the first pass a placeholder in braces is one. -/
theorem segments_of_braces {cs expr rest : List Char} (h : braces? cs = some (expr, rest)) :
    segments ('$' :: cs) = .braced expr :: segments rest := by
  unfold braces? at h
  split at h
  · rw [segments]
    split <;> simp_all
  · cases h

/-- Any other dollar sign is a character as it is. -/
theorem segments_of_no_braces {cs : List Char} (h : braces? cs = none) :
    segments ('$' :: cs) = .plain '$' :: segments cs := by
  unfold braces? at h
  split at h
  · rw [segments]
    split <;> simp_all
  · rename_i hbrace
    rw [segments]
    exact fun ds _ heq => hbrace ds heq

/-- A character that is no dollar is a segment of its own. -/
theorem segments_of_ne {c : Char} (h : c ≠ '$') (cs : List Char) :
    segments (c :: cs) = .plain c :: segments cs := by
  rw [segments]
  exact fun _ heq _ => h heq

/-- There is no dollar among the characters of a word. -/
theorem dollar_not_mem_takeWhile (cs : List Char) : '$' ∉ cs.takeWhile Text.isWord := by
  intro hmem
  have hword := List.all_eq_true.mp List.all_takeWhile _ hmem
  exact absurd hword (by decide)

namespace Evaluator

/-- The text that stands for an expression. -/
def textOf (ev : Evaluator) (contexts : List Value) (expr : List Char) :
    Except Failure (List Char) := do
  let v ← (ev.valueOf expr contexts).outcome.1
  let here ← v.writtenOrNothing
  pure here.toList

/-- Inserting the text of a value in front of another text comes to the text of both. -/
theorem outcome_inserted (t : Traced Value) {u : Traced (List Char)} (hu : u.Steady) :
    (do
      let v ← t
      let here ← Traced.ofExcept v.writtenOrNothing
      let rest ← u
      pure (here.toList ++ rest) : Traced (List Char)).outcome.1 = (do
      let here ← (do
        let v ← t.outcome.1
        let here ← v.writtenOrNothing
        pure here.toList)
      let rest ← u.outcome.1
      pure (here ++ rest)) := by
  have hrest : ∀ here : String, (do
      let rest ← u
      pure (here.toList ++ rest) : Traced (List Char)).Steady := fun here =>
    hu.bind fun _ => Traced.steady_pure _
  rw [Traced.outcome_bind _ fun v => (Traced.steady_ofExcept _).bind hrest]
  simp only [bind_assoc, pure_bind]
  refine bind_congr fun v => ?_
  rw [Traced.outcome_bind _ hrest, Traced.outcome_ofExcept]
  refine bind_congr fun here => ?_
  rw [Traced.outcome_bind _ fun _ => Traced.steady_pure _]
  rfl

section

variable (ev : Evaluator) (contexts : List Value)

/-- What the first pass makes of some segments. -/
def firstPass (ss : List Segment) : Except Failure (List Char) :=
  (fillBraced (ev.valueOf · contexts) ss).outcome.1

/-- What the second pass makes of a text. -/
def secondPass (cs : List Char) : Except Failure (List Char) := (ev.fillWords contexts cs).outcome.1

/-- Without segments the first pass makes nothing. -/
theorem firstPass_nil : ev.firstPass contexts [] = .ok [] := rfl

/-- The first pass leaves plain characters in their place. -/
theorem firstPass_plain_cons (c : Char) (ss : List Segment) :
    ev.firstPass contexts (.plain c :: ss) = (do
      let rest ← ev.firstPass contexts ss
      pure (c :: rest)) := by
  unfold firstPass
  rw [fillBraced, Traced.outcome_bind _ fun _ => Traced.steady_pure _]
  rfl

/-- Characters that are no placeholders stay in front. -/
theorem firstPass_plain_iff (cs : List Char) (ss : List Segment) {filled : List Char} :
    ev.firstPass contexts (cs.map .plain ++ ss) = .ok filled
      ↔ ∃ rest, ev.firstPass contexts ss = .ok rest ∧ filled = cs ++ rest := by
  induction cs generalizing filled with
  | nil => simp
  | cons c cs ih =>
    rw [List.map_cons, List.cons_append, firstPass_plain_cons, bind_eq_ok_iff]
    constructor
    · rintro ⟨behind, hbehind, ⟨⟩⟩
      obtain ⟨rest, hrest, rfl⟩ := ih.mp hbehind
      exact ⟨rest, hrest, rfl⟩
    · rintro ⟨rest, hrest, rfl⟩
      exact ⟨cs ++ rest, ih.mpr ⟨rest, hrest, rfl⟩, rfl⟩

/-- The first pass puts the text of an expression in the place of its braces. -/
theorem firstPass_braced_iff (expr : List Char) (ss : List Segment) {filled : List Char} :
    ev.firstPass contexts (.braced expr :: ss) = .ok filled ↔ ∃ here rest,
      ev.textOf contexts expr = .ok here ∧ ev.firstPass contexts ss = .ok rest
        ∧ filled = here ++ rest := by
  have hinserted := outcome_inserted (ev.valueOf expr contexts)
    (fillBraced_steady (fun e => valueOf_steady ev e contexts) ss)
  rw [← append_eq_ok_iff]
  exact iff_of_eq (congrArg (· = Except.ok filled) hinserted)

/-- Without text the second pass makes nothing. -/
theorem secondPass_nil : ev.secondPass contexts [] = .ok [] := by
  unfold secondPass
  rw [fillWords]
  rfl

/-- The second pass leaves alone what has no dollar sign in it. -/
theorem secondPass_append_iff {cs : List Char} (h : '$' ∉ cs) (rest : List Char) {t : List Char} :
    ev.secondPass contexts (cs ++ rest) = .ok t
      ↔ ∃ behind, ev.secondPass contexts rest = .ok behind ∧ t = cs ++ behind := by
  unfold secondPass
  rw [fillWords_append_of_not_mem ev contexts h, map_eq_pure_bind,
    Traced.outcome_bind _ fun _ => Traced.steady_pure _, bind_eq_ok_iff]
  exact exists_congr fun behind => and_congr_right fun _ => pure_eq_ok_iff

/-- The second pass fills in a word up to where it ends. -/
theorem secondPass_dollar_iff {word : List Char} (hword : ∀ c ∈ word, Text.isWord c = true)
    {rest : List Char} (hrest : ∀ c ∈ rest.head?, Text.isWord c = false) {t : List Char} :
    ev.secondPass contexts ('$' :: (word ++ rest)) = .ok t ↔ ∃ here behind,
      ev.textOf contexts word = .ok here ∧ ev.secondPass contexts rest = .ok behind
        ∧ t = here ++ behind := by
  have hends : rest.takeWhile Text.isWord = [] ∧ rest.dropWhile Text.isWord = rest := by
    cases rest with
    | nil => exact ⟨rfl, rfl⟩
    | cons c cs => simp [hrest c rfl]
  have hinserted := outcome_inserted (ev.valueOf word contexts) (fillWords_steady ev contexts rest)
  rw [← append_eq_ok_iff]
  unfold secondPass
  rw [fillWords, List.takeWhile_append_of_pos hword, List.dropWhile_append_of_pos hword, hends.1,
    hends.2, List.append_nil, ← valueOf_word hword]
  exact iff_of_eq (congrArg (· = Except.ok t) hinserted)

/-- The first pass leaves the first character alone if no placeholder in braces begins there. -/
theorem head_of_firstPass {rest filled : List Char}
    (hfilled : ev.firstPass contexts (segments rest) = .ok filled)
    (hbraced : ∀ p ∈ (parts rest).head?, p.isBraced = false) : filled.head? = rest.head? := by
  have hplain : ∀ {c cs}, segments (c :: cs) = [c].map .plain ++ segments cs →
      ev.firstPass contexts (segments (c :: cs)) = .ok filled → filled.head? = some c := by
    intro c cs hsegments hpass
    rw [hsegments, firstPass_plain_iff] at hpass
    obtain ⟨behind, -, rfl⟩ := hpass
    rfl
  -- The condition is about the first part, so it is split along with the parts.
  revert hbraced
  fun_cases parts rest with
  | case1 =>
    intro _
    rw [segments, firstPass_nil] at hfilled
    cases hfilled
    rfl
  | case2 cs expr behind h =>
    intro hbraced
    cases hbraced (.braced expr) rfl
  | case3 cs h => exact fun _ => hplain (segments_of_no_braces h) hfilled
  | case4 c cs hne => exact fun _ => hplain (segments_of_ne hne cs) hfilled

/-- Both passes together make something of a text. -/
def Passes (cs t : List Char) : Prop :=
  ∃ filled, ev.firstPass contexts (segments cs) = .ok filled
    ∧ ev.secondPass contexts filled = .ok t

/-- Both passes make nothing of nothing. -/
theorem passes_nil_iff {t : List Char} : ev.Passes contexts [] t ↔ t = [] := by
  simp [Passes, segments, firstPass_nil, secondPass_nil, eq_comm]

/-- The second pass goes over the value of an expression in braces as well, and leaves it as it is
if there is no dollar sign in it. -/
theorem passes_braces_iff {cs expr rest : List Char} (h : braces? cs = some (expr, rest))
    (hvalue : ∀ here, ev.textOf contexts expr = .ok here → '$' ∉ here) {t : List Char} :
    ev.Passes contexts ('$' :: cs) t ↔ ∃ here behind, ev.textOf contexts expr = .ok here
      ∧ ev.Passes contexts rest behind ∧ t = here ++ behind := by
  unfold Passes
  rw [segments_of_braces h]
  constructor
  · rintro ⟨_, hfirst, hsecond⟩
    obtain ⟨here, filled, hhere, hfilled, rfl⟩ := (firstPass_braced_iff ev contexts _ _).mp hfirst
    obtain ⟨behind, hbehind, rfl⟩ :=
      (secondPass_append_iff ev contexts (hvalue here hhere) _).mp hsecond
    exact ⟨here, behind, hhere, ⟨filled, hfilled, hbehind⟩, rfl⟩
  · rintro ⟨here, behind, hhere, ⟨filled, hfilled, hbehind⟩, rfl⟩
    exact ⟨here ++ filled,
      (firstPass_braced_iff ev contexts _ _).mpr ⟨here, filled, hhere, hfilled, rfl⟩,
      (secondPass_append_iff ev contexts (hvalue here hhere) _).mpr ⟨behind, hbehind, rfl⟩⟩

/-- The second pass finds the word that stands in the text, if no expression in braces follows it:
what the first pass makes of the rest begins with the character that ends the word. -/
theorem passes_word_iff {cs : List Char} (h : braces? cs = none)
    (hapart : ∀ p ∈ (parts (cs.dropWhile Text.isWord)).head?, p.isBraced = false) {t : List Char} :
    ev.Passes contexts ('$' :: cs) t ↔ ∃ here behind,
      ev.textOf contexts (cs.takeWhile Text.isWord) = .ok here
        ∧ ev.Passes contexts (cs.dropWhile Text.isWord) behind ∧ t = here ++ behind := by
  have hword : ∀ c ∈ cs.takeWhile Text.isWord, Text.isWord c = true :=
    List.all_eq_true.mp List.all_takeWhile
  have hsegments : segments ('$' :: cs)
      = ('$' :: cs.takeWhile Text.isWord).map .plain ++ segments (cs.dropWhile Text.isWord) := by
    have hsplit := segments_append_of_not_mem (dollar_not_mem_takeWhile cs)
      (cs.dropWhile Text.isWord)
    rw [List.takeWhile_append_dropWhile] at hsplit
    rw [segments_of_no_braces h, hsplit]
    rfl
  -- The word of the second pass could only run on into what the first pass fills in behind it. This
  -- begins with the character that ends the word, since no braces stand there.
  have hends : ∀ {filled},
      ev.firstPass contexts (segments (cs.dropWhile Text.isWord)) = .ok filled →
        ∀ c ∈ filled.head?, Text.isWord c = false := by
    intro filled hfilled c hc
    rw [head_of_firstPass ev contexts hfilled hapart] at hc
    have hnot := List.head?_dropWhile_not Text.isWord cs
    rw [hc] at hnot
    simpa using hnot
  unfold Passes
  rw [hsegments]
  constructor
  · rintro ⟨_, hfirst, hsecond⟩
    obtain ⟨filled, hfilled, rfl⟩ := (firstPass_plain_iff ev contexts _ _).mp hfirst
    obtain ⟨here, behind, hhere, hbehind, rfl⟩ :=
      (secondPass_dollar_iff ev contexts hword (hends hfilled)).mp hsecond
    exact ⟨here, behind, hhere, ⟨filled, hfilled, hbehind⟩, rfl⟩
  · rintro ⟨here, behind, hhere, ⟨filled, hfilled, hbehind⟩, rfl⟩
    exact ⟨'$' :: (cs.takeWhile Text.isWord ++ filled),
      (firstPass_plain_iff ev contexts _ _).mpr ⟨filled, hfilled, rfl⟩,
      (secondPass_dollar_iff ev contexts hword (hends hfilled)).mpr
        ⟨here, behind, hhere, hbehind, rfl⟩⟩

/-- Both passes leave any other character as it is. -/
theorem passes_cons_iff {c : Char} (hc : c ≠ '$') (cs : List Char) {t : List Char} :
    ev.Passes contexts (c :: cs) t ↔ ∃ behind, ev.Passes contexts cs behind ∧ t = c :: behind := by
  have hsegments : segments (c :: cs) = [c].map .plain ++ segments cs := segments_of_ne hc cs
  have hdollar : '$' ∉ [c] := by simpa using hc.symm
  unfold Passes
  rw [hsegments]
  constructor
  · rintro ⟨_, hfirst, hsecond⟩
    obtain ⟨filled, hfilled, rfl⟩ := (firstPass_plain_iff ev contexts _ _).mp hfirst
    obtain ⟨behind, hbehind, rfl⟩ := (secondPass_append_iff ev contexts hdollar _).mp hsecond
    exact ⟨behind, ⟨filled, hfilled, hbehind⟩, rfl⟩
  · rintro ⟨behind, ⟨filled, hfilled, hbehind⟩, rfl⟩
    exact ⟨[c] ++ filled, (firstPass_plain_iff ev contexts _ _).mpr ⟨filled, hfilled, rfl⟩,
      (secondPass_append_iff ev contexts hdollar _).mpr ⟨behind, hbehind, rfl⟩⟩

/-- Filling in a text in two passes comes to the same as filling it in in one, if no value brings in
a dollar sign and no word ends at an expression in braces. -/
theorem passes_iff (cs : List Char)
    (hvalues : ∀ e, .braced e ∈ parts cs → ∀ here, ev.textOf contexts e = .ok here → '$' ∉ here)
    (hapart : abuts (parts cs) = false) (t : List Char) :
    ev.Passes contexts cs t ↔ fillParts (ev.textOf contexts) (parts cs) = .ok t := by
  -- By the recursion of the parts, where what abuts and which values hold dollars is handed down.
  fun_induction parts cs generalizing t with
  | case1 => simp [passes_nil_iff, fillParts, eq_comm]
  | case2 cs expr rest h ih =>
    have ih := ih (fun e he => hvalues e (List.mem_cons_of_mem _ he)) (abuts_of_cons hapart)
    rw [passes_braces_iff ev contexts h (hvalues expr List.mem_cons_self), fillParts,
      append_eq_ok_iff]
    simp only [ih]
  | case3 cs h ih =>
    have ih := ih (fun e he => hvalues e (List.mem_cons_of_mem _ he)) (abuts_of_cons hapart)
    rw [passes_word_iff ev contexts h (not_isBraced_of_abuts hapart), fillParts, append_eq_ok_iff]
    simp only [ih]
  | case4 c cs hne ih =>
    have ih := ih (fun e he => hvalues e (List.mem_cons_of_mem _ he)) (abuts_of_cons hapart)
    rw [passes_cons_iff ev contexts hne, fillParts, bind_eq_ok_iff]
    simp only [ih, pure_eq_ok_iff]

/-- A text with placeholders comes out of both passes just when it does of one. -/
theorem apply_string_iff (s : String) {t : String} :
    (ev.apply ev.valueOf .string s.toList contexts).outcome.1 = .ok (.str t)
      ↔ ev.Passes contexts s.toList t.toList := by
  show (do
    let cs ← ev.interpolate ev.valueOf s.toList contexts
    pure (.str (String.ofList cs)) : Traced Value).outcome.1 = _ ↔ _
  have hpasses : (ev.interpolate ev.valueOf s.toList contexts).outcome.1
      = ev.firstPass contexts (segments s.toList) >>= ev.secondPass contexts :=
    Traced.outcome_bind _ fun filled => fillWords_steady ev contexts filled
  rw [outcome_map, hpasses, Passes, ← bind_eq_ok_iff]
  cases ev.firstPass contexts (segments s.toList) >>= ev.secondPass contexts with
  | error f => simp [Except.map]
  | ok cs =>
    simp [Except.map, String.ext_iff]

/-- Where nothing fails, one pass comes to an end. -/
theorem exists_fillParts {text : List Char → Except Failure (List Char)} {ps : List Part}
    (h : ∀ p ∈ ps, ∀ e ∈ p.expression?, ∃ here, text e = .ok here) :
    ∃ t, fillParts text ps = .ok t := by
  induction ps with
  | nil => exact ⟨[], rfl⟩
  | cons p ps ih =>
    obtain ⟨hp, hps⟩ := List.forall_mem_cons.mp h
    obtain ⟨rest, hrest⟩ := ih hps
    cases p with
    | plain c => exact ⟨c :: rest, by rw [fillParts, hrest]; rfl⟩
    | braced e | word e =>
      obtain ⟨here, hhere⟩ := hp e rfl
      exact ⟨here ++ rest, by rw [fillParts, hhere, hrest]; rfl⟩

/-- Two passes come to what one comes to: a text in which no value in braces brings in a dollar sign
and no word ends at an expression in braces is filled in to `t` just when a single pass from left to
right gives `t`. If none of its expressions fails, there is such a `t`. -/
theorem interpolated_in_one_pass (s : String)
    (hvalues : ∀ e, .braced e ∈ parts s.toList →
      ∀ here, ev.textOf contexts e = .ok here → '$' ∉ here)
    (hapart : abuts (parts s.toList) = false) :
    (∀ t : String, (ev.apply ev.valueOf .string s.toList contexts).outcome.1 = .ok (.str t)
      ↔ fillParts (ev.textOf contexts) (parts s.toList) = .ok t.toList) ∧
    ((∀ p ∈ parts s.toList, ∀ e ∈ p.expression?, ∃ here, ev.textOf contexts e = .ok here) →
      ∃ t : String, fillParts (ev.textOf contexts) (parts s.toList) = .ok t.toList
        ∧ (ev.apply ev.valueOf .string s.toList contexts).outcome.1 = .ok (.str t)) := by
  have hsame : ∀ t : String,
      (ev.apply ev.valueOf .string s.toList contexts).outcome.1 = .ok (.str t)
        ↔ fillParts (ev.textOf contexts) (parts s.toList) = .ok t.toList := fun t =>
    (apply_string_iff ev contexts s).trans (passes_iff ev contexts s.toList hvalues hapart t.toList)
  refine ⟨hsame, fun hevaluates => ?_⟩
  obtain ⟨cs, hcs⟩ := exists_fillParts hevaluates
  have hfilled : fillParts (ev.textOf contexts) (parts s.toList)
      = .ok (String.ofList cs).toList := by
    rw [String.toList_ofList, hcs]
  exact ⟨String.ofList cs, hfilled, (hsame _).mpr hfilled⟩

end

/-- A text that holds placeholders of both kinds, one that is not closed on its line, and one in
another's braces. -/
def mixedText : String := "$\x7ba\x7db$\x7bopen\n$a-$\x7bstring:x$n\x7d$$n"

/-- A string with words and braces between plain text. -/
theorem interpolated_in_one_pass_mixed :
    let contexts := [.map [(.str "a", .str "A"), (.str "n", .int 3)]]
    (∀ e, .braced e ∈ parts mixedText.toList →
        ∀ here, standard.textOf contexts e = .ok here → '$' ∉ here)
      ∧ abuts (parts mixedText.toList) = false
      ∧ (standard.apply standard.valueOf .string mixedText.toList contexts).outcome.1
        = .ok (.str "Ab\x7bopen\nA-x33") := by
  intro contexts
  have hparts : parts mixedText.toList = [.braced ['a'], .plain 'b', .word [], .plain '{',
      .plain 'o', .plain 'p', .plain 'e', .plain 'n', .plain '\n', .word ['a'], .plain '-',
      .braced "string:x$n".toList, .word [], .word ['n']] := by decide +kernel
  have hvalues : ∀ e, .braced e ∈ parts mixedText.toList →
      ∀ here, standard.textOf contexts e = .ok here → '$' ∉ here := by
    intro e he here hhere
    have hoption := congrArg Except.toOption hhere
    have heither : e = ['a'] ∨ e = "string:x$n".toList := by
      simpa [hparts] using he
    rcases heither with rfl | rfl
    · have ha : (standard.textOf contexts ['a']).toOption = some ['A'] := by decide +kernel
      rw [ha] at hoption
      cases hoption
      decide
    · have hx : (standard.textOf contexts "string:x$n".toList).toOption = some ['x', '3'] := by
        decide +kernel
      rw [hx] at hoption
      cases hoption
      decide
  have hapart : abuts (parts mixedText.toList) = false := by
    rw [hparts]
    rfl
  have hfilled : fillParts (standard.textOf contexts) (parts mixedText.toList)
      = .ok "Ab\x7bopen\nA-x33".toList := by
    -- Failures cannot be compared by evaluation, values can: so the outcome is turned into an
    -- option.
    have hoption : (fillParts (standard.textOf contexts) (parts mixedText.toList)).toOption
        = some "Ab\x7bopen\nA-x33".toList := by decide +kernel
    revert hoption
    cases fillParts (standard.textOf contexts) (parts mixedText.toList) with
    | error f => exact fun h => nomatch h
    | ok t => exact fun h => congrArg Except.ok (Option.some.inj h)
  exact ⟨hvalues, hapart,
    ((interpolated_in_one_pass standard contexts mixedText hvalues hapart).1 _).mpr hfilled⟩

end Evaluator

end Expr

end AttrTemplates
