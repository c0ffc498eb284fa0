import AttrTemplates.Expr.Arguments
import AttrTemplates.Proofs.Text.Pieces

/-!
# `AttrTemplates.Proofs.Expr.Joined`: lists of arguments put together

A list of arguments is written by doubling the semicolons in each of them and putting a semicolon
and a space between them (`joinArguments`). Reading it takes it apart at the semicolons that are
left when the doubled ones have been represented by the mark. So the arguments come back wherever
they begin and end and whatever semicolons they hold, even one next to the separator: pairs are
formed from the left, and a space stands behind the semicolon that separates.

The mark is a character like any other, though, and an argument may hold it. Then it is taken for a
doubled semicolon.

* `markDoubled_doubled_append` is the step: doubled semicolons become marks, whatever follows;
* `splitAt_markDoubled_joined` tells the pieces that a list comes apart into;
* `arguments_joined` is the result: a list gives its arguments back if none of them holds the mark,
  and only then.
-/

set_option autoImplicit false

namespace AttrTemplates

namespace Expr

/-! ### Lists of arguments -/

/-- A text with its semicolons doubled. -/
def doubled : List Char → List Char
  | [] => []
  | c :: cs => if c = ';' then ';' :: ';' :: doubled cs else c :: doubled cs

/-- Texts with their semicolons doubled, and a semicolon and a space between them. -/
def joined : List (List Char) → List Char
  | [] => []
  | [s] => doubled s
  | s :: ss => doubled s ++ ';' :: ' ' :: joined ss

/-- The list of some arguments. -/
def joinArguments (ss : List String) : String := String.ofList (joined (ss.map String.toList))

/-- A text with marks for its semicolons. -/
def marked (cs : List Char) : List Char := cs.map fun c => if c = ';' then mark else c

/-- Only the semicolons are written differently. -/
theorem doubled_append_of_not_mem {cs : List Char} (h : ';' ∉ cs) (rest : List Char) :
    doubled (cs ++ rest) = cs ++ doubled rest := by
  induction cs with
  | nil => rfl
  | cons c cs ih =>
    obtain ⟨hc, hcs⟩ := not_or.mp (mt List.mem_cons.mpr h)
    rw [List.cons_append, doubled, if_neg (Ne.symm hc), ih hcs, List.cons_append]

/-- In other words, a list is what is put together from such texts. -/
theorem joined_eq_intercalate (ss : List (List Char)) :
    joined ss = "; ".toList.intercalate (ss.map doubled) := by
  fun_induction joined ss with
  | case1 => rfl
  | case2 s => simp
  | case3 s ss hne ih =>
    obtain ⟨t, ts, rfl⟩ := List.exists_cons_of_ne_nil hne
    rw [List.map_cons, List.map_cons, List.intercalate_cons_cons, ih]
    simp

/-! ### Taking a list apart -/

/-- Doubled semicolons are paired as they were doubled, whatever stands behind them. -/
theorem markDoubled_doubled_append (cs rest : List Char) :
    markDoubled (doubled cs ++ rest) = marked cs ++ markDoubled rest := by
  induction cs with
  | nil => rfl
  | cons c cs ih =>
    by_cases hc : c = ';'
    · simp only [doubled, hc, if_pos, List.cons_append, markDoubled, ih, marked, List.map_cons]
    · rw [doubled, if_neg hc, List.cons_append, markDoubled, ih]
      · simp [marked, hc]
      · -- A character that is no semicolon begins no pair.
        rintro _ rfl
        exact (hc rfl).elim

/-- The semicolon that separates is left alone, since it stands before a space. -/
theorem markDoubled_separator (cs : List Char) :
    markDoubled (';' :: ' ' :: cs) = ';' :: ' ' :: markDoubled cs := by
  rw [markDoubled, markDoubled]
  · rintro _ ⟨⟩
  · rintro _ _ ⟨⟩

/-- Where semicolons are marked there are none. -/
theorem semicolon_not_mem_marked (cs : List Char) : ';' ∉ marked cs := by
  intro hmem
  obtain ⟨c, -, hc⟩ := List.mem_map.mp hmem
  split at hc
  · exact absurd hc (by decide)
  · contradiction

/-- A list comes apart into its arguments. All but the first have the space in front of them, and
there are marks for the semicolons in them. -/
theorem splitAt_markDoubled_joined (s : List Char) (ss : List (List Char)) :
    Text.splitAt ';' (markDoubled (joined (s :: ss)))
      = marked s :: ss.map fun t => ' ' :: marked t := by
  induction ss generalizing s with
  | nil =>
    have hone := markDoubled_doubled_append s []
    rw [List.append_nil, markDoubled, List.append_nil] at hone
    show Text.splitAt ';' (markDoubled (doubled s)) = [marked s]
    rw [hone, Text.splitAt_of_not_mem (semicolon_not_mem_marked s)]
  | cons t ts ih =>
    show Text.splitAt ';' (markDoubled (doubled s ++ ';' :: ' ' :: joined (t :: ts))) = _
    rw [markDoubled_doubled_append, markDoubled_separator,
      Text.splitAt_append_cons (semicolon_not_mem_marked s), Text.splitAt, ih t]
    simp

/-! ### The arguments that come back -/

/-- Marks for semicolons leave the ends of a text as they are: neither of the two is white space. -/
theorem isTrimmed_marked {cs : List Char} (h : Text.IsTrimmed cs) : Text.IsTrimmed (marked cs) := by
  refine (Text.isTrimmed_map_iff fun c => ?_).mpr h
  split
  · rename_i hc
    rw [hc]
    decide
  · rfl

/-- Semicolons come back from their marks, and marks that were there before become semicolons. -/
theorem unmark_marked (cs : List Char) : unmark (marked cs) = unmark cs := by
  simp only [unmark, marked, List.map_map]
  refine List.map_congr_left fun c _ => ?_
  by_cases hc : c = ';'
  · simp [hc]
  · simp [hc]

/-- A text without the mark is as it was when marks are turned into semicolons. -/
theorem unmark_eq_self_iff {cs : List Char} : unmark cs = cs ↔ mark ∉ cs := by
  have hmark : ';' ≠ mark := by decide
  induction cs with
  | nil => simp [unmark]
  | cons c cs ih =>
    simp only [unmark] at ih
    by_cases hc : c = mark
    · simp [unmark, hc, hmark]
    · simp [unmark, hc, Ne.symm hc, ih]

/-- A mark turns into a semicolon. -/
theorem semicolon_mem_unmark {cs : List Char} (h : mark ∈ cs) : ';' ∈ unmark cs :=
  List.mem_map.mpr ⟨mark, h, if_pos rfl⟩

/-- The same for strings. -/
theorem ofList_unmark_eq_iff {s : String} :
    String.ofList (unmark s.toList) = s ↔ mark ∉ s.toList := by
  rw [← unmark_eq_self_iff]
  constructor
  · intro h
    simpa using congrArg String.toList h
  · intro h
    rw [h, String.ofList_toList]

/-- Marks are turned into semicolons character by character. -/
theorem unmark_append (cs ds : List Char) : unmark (cs ++ ds) = unmark cs ++ unmark ds :=
  List.map_append

/-- Neither the mark nor the semicolon is white space. -/
theorem isBlank_unmarked (c : Char) :
    Text.isBlank (if c = mark then ';' else c) = Text.isBlank c := by
  split
  · rename_i hc
    rw [hc]
    decide
  · rfl

/-- A mark is no blank and neither is a semicolon, so a text is trimmed with either. -/
theorem isTrimmed_unmark_iff {cs : List Char} : Text.IsTrimmed (unmark cs) ↔ Text.IsTrimmed cs :=
  Text.isTrimmed_map_iff isBlank_unmarked

/-- A list gives back its arguments with semicolons for the marks in them. -/
theorem argumentsOf_joined {ss : List (List Char)} (h : ∀ s ∈ ss, Text.IsTrimmed s) :
    argumentsOf (joined ss) = ss.map unmark := by
  cases ss with
  | nil => rfl
  | cons s ss =>
    -- Trimmed, the pieces are the arguments with marks; so none of them is left out.
    have htrim : ((Text.splitAt ';' (markDoubled (joined (s :: ss)))).map Text.trim)
        = (s :: ss).map marked := by
      rw [splitAt_markDoubled_joined]
      have hone : ∀ t ∈ s :: ss, Text.trim (marked t) = marked t := fun t ht =>
        (isTrimmed_marked (h t ht)).trim_eq
      simp only [List.map_cons, List.map_map, hone s List.mem_cons_self]
      refine congrArg _ (List.map_congr_left fun t ht => ?_)
      simp only [Function.comp_apply, Text.trim_space_cons]
      exact hone t (List.mem_cons_of_mem s ht)
    have hkept : ((s :: ss).map marked).filter (!·.isEmpty) = (s :: ss).map marked := by
      refine List.filter_eq_self.mpr fun piece hpiece => ?_
      obtain ⟨t, ht, rfl⟩ := List.mem_map.mp hpiece
      simpa using (isTrimmed_marked (h t ht)).ne_nil
    unfold argumentsOf
    rw [htrim, hkept, List.map_map]
    exact List.map_congr_left fun t _ => unmark_marked t

/-- Reading undoes joining. A list of arguments that are not empty and have no white space at their
ends comes back with semicolons in the places of marks, and so it comes back as it was just when no
argument holds the mark. -/
theorem arguments_joined {ss : List String} (h : ∀ s ∈ ss, Text.IsTrimmed s.toList) :
    arguments (joinArguments ss) = ss.map (fun s => String.ofList (unmark s.toList)) ∧
      (arguments (joinArguments ss) = ss ↔ ∀ s ∈ ss, mark ∉ s.toList) := by
  have hread : arguments (joinArguments ss)
      = ss.map fun s => String.ofList (unmark s.toList) := by
    have hall : ∀ cs ∈ ss.map String.toList, Text.IsTrimmed cs := by
      intro cs hcs
      obtain ⟨s, hs, rfl⟩ := List.mem_map.mp hcs
      exact h s hs
    unfold arguments joinArguments
    rw [String.toList_ofList, argumentsOf_joined hall, List.map_map, List.map_map]
    rfl
  refine ⟨hread, ?_⟩
  rw [hread]
  constructor
  · intro hlist s hs
    have hid : ss.map (fun s => String.ofList (unmark s.toList)) = ss.map id := by
      rw [hlist, List.map_id]
    -- Lists that are equal are equal item by item, and an item is what it was without marks alone.
    exact ofList_unmark_eq_iff.mp (List.map_inj_left.mp hid s hs)
  · intro hfree
    calc ss.map (fun s => String.ofList (unmark s.toList))
        = ss.map id := List.map_congr_left fun s hs => ofList_unmark_eq_iff.mpr (hfree s hs)
      _ = ss := List.map_id ss

/-- Arguments that begin with semicolons, end with them and are nothing else. -/
def semicolonArguments : List String := ["a;", ";;b c", ";", "x ;\t; y"]

/-- Arguments with semicolons in them, and blanks around those. -/
theorem arguments_joined_semicolons :
    (∀ s ∈ semicolonArguments, Text.IsTrimmed s.toList) ∧
      joinArguments semicolonArguments = "a;;; ;;;;b c; ;;; x ;;\t;; y" ∧
      arguments (joinArguments semicolonArguments) = semicolonArguments := by
  have htrimmed : ∀ s ∈ semicolonArguments, Text.IsTrimmed s.toList := by decide
  have hfree : ∀ s ∈ semicolonArguments, mark ∉ s.toList := by decide
  exact ⟨htrimmed, by decide, (arguments_joined htrimmed).2.mpr hfree⟩

/-- An argument that holds the mark does not come back. -/
theorem joined_mark_lost :
    Text.IsTrimmed (String.singleton mark).toList ∧
      arguments (joinArguments [String.singleton mark]) ≠ [String.singleton mark] ∧
      arguments (joinArguments [String.singleton mark]) = [";"] := by
  exact ⟨by decide, by decide, by decide⟩

end Expr

end AttrTemplates
