import AttrTemplates.Proofs.Expr.Joined

/-!
# `AttrTemplates.Proofs.Expr.Scanned`: a list of arguments read in one scan

A list of arguments is read in five steps: doubled semicolons become marks, the text is taken apart
at the others, the pieces are trimmed, those left empty go, and the marks become semicolons again.
One scan from left to right (`scanFrom`) does without the mark: it adds a semicolon for two of them
and begins a new segment at one. The two agree up to the mark, which the first takes for a semicolon
wherever it stands.

* `map_unmark_scanFrom` compares the scan with the first two steps, over the clauses of the scan;
* `trim_unmark` says that marks do not matter to the trimming, being no white space;
* `arguments_scanned` puts the steps together: a list reads as its scan with semicolons for the
  marks, and so as its scan just when there is no mark in it.
-/

set_option autoImplicit false

namespace AttrTemplates

namespace Expr

/-- The segments of a list, scanned from left to right. `segment` is what the current one holds. -/
def scanFrom (segment : List Char) : List Char → List (List Char)
  | ';' :: ';' :: cs => scanFrom (segment ++ [';']) cs
  | ';' :: cs => segment :: scanFrom [] cs
  | c :: cs => scanFrom (segment ++ [c]) cs
  | [] => [segment]

/-- What a scan finds in a list: its segments without the white space at their ends, but for those
that are empty then. -/
def scanned (s : String) : List String :=
  (((scanFrom [] s.toList).map Text.trim).filter (!·.isEmpty)).map String.ofList

/-- Up to the marks, a scan takes a list apart as splitting does at the semicolons that are left
when the doubled ones are marks. -/
theorem map_unmark_scanFrom (segment cs : List Char) :
    (scanFrom segment cs).map unmark
      = ((Text.splitAt ';' (markDoubled cs)).map unmark).modifyHead (unmark segment ++ ·) := by
  have hmark : mark ≠ ';' := by decide
  -- What is left of the list has a first piece, to which the current segment belongs.
  have hfirst : ∀ cs, ∃ piece pieces, Text.splitAt ';' (markDoubled cs) = piece :: pieces :=
    fun cs => List.exists_cons_of_ne_nil (Text.splitAt_ne_nil ';' (markDoubled cs))
  fun_induction scanFrom segment cs with
  | case1 segment cs ih =>
    -- The mark for the two semicolons comes out as the one that the scan adds.
    obtain ⟨piece, pieces, hpieces⟩ := hfirst cs
    rw [ih, markDoubled, Text.splitAt_cons_of_ne hmark, hpieces]
    simp [unmark]
  | case2 segment cs hne ih =>
    -- No semicolon follows this one, so it is left as it is and separates.
    obtain ⟨piece, pieces, hpieces⟩ := hfirst cs
    rw [List.map_cons, ih, markDoubled, Text.splitAt, if_pos rfl, hpieces]
    · simp [unmark]
    · rintro _ _ rfl
      exact hne _ rfl
  | case3 segment c cs hne hne' ih =>
    obtain ⟨piece, pieces, hpieces⟩ := hfirst cs
    have hc : c ≠ ';' := fun hc => hne' hc
    rw [ih, markDoubled, Text.splitAt_cons_of_ne hc, hpieces]
    · simp [unmark]
    · rintro _ rfl
      exact (hc rfl).elim
  | case4 segment => simp [markDoubled, Text.splitAt, unmark]

/-- Marks may be turned into semicolons before blanks are left out or afterwards. -/
theorem trim_unmark (cs : List Char) : Text.trim (unmark cs) = unmark (Text.trim cs) :=
  Text.trim_map isBlank_unmarked cs

/-- The arguments in a list are what a scan finds, marks taken for semicolons. -/
theorem argumentsOf_eq_scanFrom (cs : List Char) :
    argumentsOf cs
      = (((scanFrom [] cs).map Text.trim).filter (!·.isEmpty)).map unmark := by
  have hempty : ∀ ds : List Char, (!(unmark ds).isEmpty) = !ds.isEmpty := by
    intro ds
    cases ds <;> rfl
  have hpieces : (Text.splitAt ';' (markDoubled cs)).map unmark = (scanFrom [] cs).map unmark := by
    rw [map_unmark_scanFrom]
    cases (Text.splitAt ';' (markDoubled cs)).map unmark <;> rfl
  have hcommute : ∀ pieces : List (List Char),
      ((pieces.map Text.trim).filter (!·.isEmpty)).map unmark
        = ((pieces.map unmark).map Text.trim).filter (!·.isEmpty) := by
    intro pieces
    simp only [List.map_map, List.filter_map, Function.comp_def, trim_unmark, hempty]
  rw [argumentsOf, hcommute, hpieces, hcommute]

/-- A scan keeps all characters but semicolons, and adds no others. -/
theorem mem_scanFrom {c : Char} (hc : c ≠ ';') (segment cs : List Char) :
    (∃ piece ∈ scanFrom segment cs, c ∈ piece) ↔ c ∈ segment ∨ c ∈ cs := by
  fun_induction scanFrom segment cs with
  | case1 segment cs ih => simp [ih, hc]
  | case2 segment cs hne ih => simp [ih, hc]
  | case3 segment d cs hne hne' ih => simp [ih, or_assoc]
  | case4 segment => simp

/-- The mark is no white space, so it is not trimmed away and its segment is not left out. -/
theorem mark_mem_scanned (s : String) :
    (∃ t ∈ scanned s, mark ∈ t.toList) ↔ mark ∈ s.toList := by
  have hmark : mark ≠ ';' := by decide
  have htrim : ∀ piece, mark ∈ Text.trim piece ↔ mark ∈ piece := fun piece =>
    ⟨Text.mem_of_mem_trim, Text.mem_trim_of_mem (by decide)⟩
  have hscan := mem_scanFrom hmark [] s.toList
  simp only [List.not_mem_nil, false_or] at hscan
  rw [← hscan]
  constructor
  · rintro ⟨t, ht, hmem⟩
    obtain ⟨trimmed, htrimmed, rfl⟩ := List.mem_map.mp ht
    obtain ⟨piece, hpiece, rfl⟩ := List.mem_map.mp (List.mem_filter.mp htrimmed).1
    rw [String.toList_ofList, htrim] at hmem
    exact ⟨piece, hpiece, hmem⟩
  · rintro ⟨piece, hpiece, hmem⟩
    rw [← htrim] at hmem
    have hkept : (!(Text.trim piece).isEmpty) = true := by
      simpa using List.ne_nil_of_mem hmem
    refine ⟨String.ofList (Text.trim piece), List.mem_map_of_mem ?_, by simpa using hmem⟩
    exact List.mem_filter.mpr ⟨List.mem_map_of_mem hpiece, hkept⟩

/-- Where marks are turned into semicolons there are none. -/
theorem mark_not_mem_unmark (cs : List Char) : mark ∉ unmark cs := by
  intro hmem
  obtain ⟨c, -, hc⟩ := List.mem_map.mp hmem
  split at hc
  · exact absurd hc (by decide)
  · contradiction

/-- A list of arguments is read as one scan from left to right reads it, with semicolons in the
places of marks. So reading it is scanning it just when it does not hold the mark. -/
theorem arguments_scanned (s : String) :
    arguments s = (scanned s).map (fun t => String.ofList (unmark t.toList)) ∧
      (arguments s = scanned s ↔ mark ∉ s.toList) := by
  have hread : arguments s = (scanned s).map fun t => String.ofList (unmark t.toList) := by
    simp [arguments, argumentsOf_eq_scanFrom, scanned]
  refine ⟨hread, ?_⟩
  rw [← mark_mem_scanned]
  constructor
  · rintro hsame ⟨t, ht, hmem⟩
    -- No argument holds the mark.
    rw [← hsame, hread] at ht
    obtain ⟨piece, -, rfl⟩ := List.mem_map.mp ht
    rw [String.toList_ofList] at hmem
    exact mark_not_mem_unmark _ hmem
  · intro hfree
    rw [hread]
    calc (scanned s).map (fun t => String.ofList (unmark t.toList))
        = (scanned s).map id := List.map_congr_left fun t ht =>
          ofList_unmark_eq_iff.mpr fun hmem => hfree ⟨t, ht, hmem⟩
      _ = scanned s := List.map_id _

/-- Arguments that were read can be put together again, as many of them and in whatever order. -/
theorem arguments_joinArguments_of_mem {s : String} {ss : List String}
    (h : ∀ t ∈ ss, t ∈ arguments s) : arguments (joinArguments ss) = ss := by
  have hread : ∀ cs ∈ argumentsOf s.toList, Text.IsTrimmed cs ∧ mark ∉ cs := by
    intro cs hcs
    obtain ⟨piece, hpiece, rfl⟩ := List.mem_map.mp hcs
    obtain ⟨hmem, hkept⟩ := List.mem_filter.mp hpiece
    obtain ⟨whole, -, rfl⟩ := List.mem_map.mp hmem
    exact ⟨isTrimmed_unmark_iff.mpr (Text.isTrimmed_trim (by simpa using hkept)),
      mark_not_mem_unmark _⟩
  have hall : ∀ t ∈ ss, Text.IsTrimmed t.toList ∧ mark ∉ t.toList := by
    intro t ht
    obtain ⟨cs, hcs, rfl⟩ := List.mem_map.mp (h t ht)
    rw [String.toList_ofList]
    exact hread cs hcs
  have hjoined : argumentsOf (joined (ss.map String.toList)) = (ss.map String.toList).map unmark :=
    argumentsOf_joined (List.forall_mem_map.mpr fun t ht => (hall t ht).1)
  unfold arguments joinArguments
  rw [String.toList_ofList, hjoined, List.map_map, List.map_map]
  calc ss.map (fun t => String.ofList (unmark t.toList))
      = ss.map id := List.map_congr_left fun t ht => ofList_unmark_eq_iff.mpr (hall t ht).2
    _ = ss := List.map_id ss

end Expr

end AttrTemplates
