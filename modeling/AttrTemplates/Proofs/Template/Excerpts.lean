import AttrTemplates.Proofs.Template.Declared
import AttrTemplates.Proofs.Template.Rows
import AttrTemplates.Template.Report

/-!
# `AttrTemplates.Proofs.Template.Excerpts`: the line that an excerpt marks

The report about a source that is no document has an excerpt around the line at which reading
stopped. The line has a number, and the reader of documents counts by line feeds. The excerpt counts
every line end, and there are others in documents: a carriage return alone, `U+0085`, `U+2028` and
`U+2029`. With one of them in front of the fault, the line that is marked is not the one that is
meant, and with enough of them it is far from it.

* `rowsOf_excerpt` finds the one row of an excerpt that is marked;
* `syntax_error_excerpt` puts the marked line in its place in the source, and tells when that is the
  place of the line of that number in the sense of line feeds.
-/

set_option autoImplicit false

namespace AttrTemplates

open Xml

/-- An excerpt around a line of a text shows it, and nothing else is marked. -/
theorem rowsOf_excerpt {text : String} {n : Nat} (column : Option Int)
    (hn : n < (Text.lines text).length) :
    ∃ width, (rowsOf (excerpt text (n + 1 : Nat) column)).filter isMarked
      = [lineRow width true (n + 1) (Text.lines text)[n]] := by
  obtain ⟨above, shown, below, hnumbered, hothers, hrows⟩ :=
    rowsOf_excerpt_around (Nat.le_add_left 1 n) hn column 2
  have hmem : (n + 1, shown) ∈ above ++ (n + 1, shown) :: below := by simp
  have hshown : (Text.lines text)[n]? = some shown :=
    getElem?_of_mem_numberedLines (hnumbered ▸ hmem)
  have hmarked := filter_isMarked_around
    (Nat.toDigits 10 (min (Text.lines text).length (n + 1 + 2))).length column hothers shown
  rw [← hrows, rowOf_self, ← (List.getElem_eq_iff hn).mpr hshown] at hmarked
  exact ⟨_, hmarked⟩

/-- Nothing is shown for a line that there is not. -/
theorem exists_of_excerpt_ne {text : String} {line : Nat} {column : Option Int}
    (h : excerpt text line column ≠ "") : ∃ n, line = n + 1 ∧ n < (Text.lines text).length := by
  unfold excerpt at h
  dsimp only at h
  split at h
  · exact (h rfl).elim
  · exact ⟨line - 1, by omega, by omega⟩

/-! ### Syntax errors -/

/-- The line that the report about a source marks, when reading it stops at a line and the excerpt
is not empty. It stands in the source behind as many line ends as its number says, and it is the
line of that number as the reader counts just when all line ends in front of it have a line feed and
its own has one. If that is so in all of the source, it is what stands between the line feeds in
front of that line and behind it, but for a carriage return. -/
theorem syntax_error_excerpt (e : Engine) (data : Value) {source : Source} {line column : Nat}
    (h : (Template.ofSource (some source)).parse = .error (.malformedSource line column))
    (hshown : excerpt (sourceText (some source)) line (some column) ≠ "") :
    e.report (some source) data
        = (.failure (some "TemplateError: XML syntax error") (some ⟨some line, some column,
            some (excerpt (sourceText (some source)) line (some column))⟩), []) ∧
      ∃ width before shown behind,
        (sourceText (some source)).toList = before ++ (shown ++ behind) ∧
        (rowsOf (excerpt (sourceText (some source)) line (some column))).filter isMarked
          = [lineRow width true line (String.ofList shown)] ∧
        Text.IsLine (line - 1) before shown behind ∧
        (Text.IsFeedLine (line - 1) before shown behind ↔ Text.FeedsOnly before ∧
          (behind = [] ∨ behind.head? = some '\n' ∨ ['\r', '\n'] <+: behind)) ∧
        (Text.FeedsOnly (sourceText (some source)).toList →
          (Text.splitAt '\n' (sourceText (some source)).toList)[line - 1]? = some shown ∨
          (Text.splitAt '\n' (sourceText (some source)).toList)[line - 1]?
            = some (shown ++ ['\r'])) := by
  obtain ⟨n, rfl, hn⟩ := exists_of_excerpt_ne hshown
  obtain ⟨width, hrows⟩ := rowsOf_excerpt (some (column : Int)) hn
  obtain ⟨before, behind, htext, hisline⟩ := Text.exists_isLine hn
  have hprocess := Template.process_of_parse_error h data
  refine ⟨?_, width, before, _, behind, htext, ?_, hisline, hisline.isFeedLine_iff, fun honly => ?_⟩
  · unfold Engine.report Engine.processSource Engine.process Engine.template? Output.fill
    dsimp only
    rw [hprocess]
    rfl
  · rw [String.ofList_toList]
    exact hrows
  · rw [htext] at honly ⊢
    exact (hisline.isFeedLine_of_feedsOnly honly).getElem?_splitAt

/-- Whether a source cannot be read from a place on. -/
def stopsAt (source : Source) (line column : Nat) : Bool :=
  match (Template.ofSource (some source)).parse with
  | .error (.malformedSource l c) => l == line && c == column
  | _ => false

/-- A source that stops somewhere is malformed there. -/
theorem parse_of_stopsAt {source : Source} {line column : Nat}
    (h : stopsAt source line column = true) :
    (Template.ofSource (some source)).parse = .error (.malformedSource line column) := by
  unfold stopsAt at h
  split at h
  · rename_i l c hparse
    obtain ⟨hl, hc⟩ := Bool.and_eq_true_iff.mp h
    rw [hparse, beq_iff_eq.mp hl, beq_iff_eq.mp hc]
  · cases h

/-- A document with an element that is not closed. -/
def unclosedSource : Source := .text "<r>\n<open>\n</r>"

/-- A source with an element that is not closed, at whose last line the parser stops. -/
theorem syntax_error_excerpt_unclosed :
    (Template.ofSource (some unclosedSource)).parse = .error (.malformedSource 3 5) ∧
      excerpt (sourceText (some unclosedSource)) 3 (some 5) ≠ "" ∧
      ∃ width, (rowsOf (excerpt (sourceText (some unclosedSource)) 3 (some 5))).filter isMarked
        = [lineRow width true 3 "</r>"] := by
  have hparse : (Template.ofSource (some unclosedSource)).parse = .error (.malformedSource 3 5) :=
    parse_of_stopsAt (by decide +kernel)
  have hne : excerpt (sourceText (some unclosedSource)) (3 : Nat) (some (5 : Nat)) ≠ "" := by
    decide +kernel
  obtain ⟨-, width, before, shown, behind, htext, hrows, hisline, -, hpiece⟩ :=
    syntax_error_excerpt ⟨[], Format.html.output⟩ (.map []) hparse hne
  -- The source has no other line ends than line feeds, so the parser and the excerpt count alike.
  have honly : Text.FeedsOnly (sourceText (some unclosedSource)).toList :=
    (Text.count_feeds _).2.mp (by decide +kernel)
  have hthird : (Text.splitAt '\n' (sourceText (some unclosedSource)).toList)[2]?
      = some "</r>".toList := by decide +kernel
  rcases hpiece honly with hpiece | hpiece
  · rw [Option.some.inj (hpiece.symm.trans hthird), String.ofList_toList] at hrows
    exact ⟨hparse, hne, width, hrows⟩
  · -- The other case has a carriage return at the end of the line, where this source has none.
    have hreturn := congrArg List.getLast? (Option.some.inj (hpiece.symm.trans hthird))
    rw [List.getLast?_concat] at hreturn
    exact absurd hreturn (by decide)

/-- The same document with a line separator behind its start tag. -/
def separatedSource : Source := .text "<r>\u2028\n<open>\n</r>"

/-- Reading stops at the same place, but the line in front of it is marked. -/
theorem separator_shifts_excerpt :
    (Template.ofSource (some separatedSource)).parse = .error (.malformedSource 3 5) ∧
      excerpt (sourceText (some separatedSource)) 3 (some 5)
        = "  1 | <r>\n  2 | \n> 3 | <open>\n    |     ^\n  4 | </r>" ∧
      (Text.splitAt '\n' (sourceText (some separatedSource)).toList)[2]? = some "</r>".toList :=
  ⟨parse_of_stopsAt (by decide +kernel), by decide +kernel, by decide +kernel⟩

end AttrTemplates
