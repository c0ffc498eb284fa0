import AttrTemplates.Proofs.Number.Decimal
import AttrTemplates.Proofs.Text.Lines
import AttrTemplates.Template.Excerpt
import Mathlib.Data.List.Forall2
import Mathlib.Data.List.Intervals

/-!
# `AttrTemplates.Proofs.Template.Rows`: what an excerpt shows

An excerpt around a line shows the lines that are near it, each in a row of its own, and under the
line itself a row with a caret. The rows are the pieces between the line feeds of the excerpt, since
no line of a text has one in it.

* `showsLine_lineRow` and `getElem?_caretRow` say what stands in a row;
* `map_fst_numberedLines` and `getElem?_of_mem_numberedLines` say which lines are shown;
* `excerptRows_around` says which rows there are, in front of the line, at it and behind it, and
  `forall₂_showsLine` which lines they show. All of them have a margin of one width, as no number
  among them has more digits than the last one;
* `excerpt_shows_window` puts this together.
-/

set_option autoImplicit false

namespace AttrTemplates

/-- The rows of an excerpt. -/
def rowsOf (x : String) : List String := (Text.splitAt '\n' x.toList).map String.ofList

/-- Whether a row is marked. -/
def isMarked (row : String) : Bool := row.toList.head? == some '>'

/-- A text that is all in one line. -/
def OneRow (s : String) : Prop := '\n' ∉ s.toList

/-- Whether a text is one row is decided by looking for a line feed. -/
instance (s : String) : Decidable (OneRow s) := inferInstanceAs (Decidable ('\n' ∉ s.toList))

/-- What stands in front of a line in its row: a mark, the number flushed right and a bar. -/
def IsMargin (marked : Bool) (number : Nat) (margin : List Char) : Prop :=
  ∃ blanks, margin = (if marked then '>' else ' ') ::
    (List.replicate (blanks + 1) ' ' ++ Nat.toDigits 10 number ++ [' ', '|', ' '])

/-- A row shows a line as it is, behind a margin of a width. -/
def ShowsLine (width : Nat) (marked : Bool) (number : Nat) (line row : String) : Prop :=
  ∃ margin, row.toList = margin ++ line.toList ∧ margin.length = width ∧
    IsMargin marked number margin

/-! ### Single rows -/

/-- Rows that are joined by line feeds come apart again. -/
theorem rowsOf_intercalate {rows : List String} (hne : rows ≠ []) (h : ∀ row ∈ rows, OneRow row) :
    rowsOf ("\n".intercalate rows) = rows := by
  unfold rowsOf
  rw [String.toList_intercalate, Text.splitAt_eq_splitOn]
  show (List.splitOn '\n' (['\n'].intercalate (rows.map String.toList))).map _ = _
  rw [List.splitOn_intercalate '\n' (List.forall_mem_map.mpr h) (by simpa using hne), List.map_map]
  simp

/-- Two texts make one row if both are. -/
theorem oneRow_append {s t : String} : OneRow (s ++ t) ↔ OneRow s ∧ OneRow t := by
  simp [OneRow]

/-- Spaces are one row. -/
theorem oneRow_spaces (n : Nat) : OneRow (spaces n) := by
  simp [OneRow, spaces]

/-- A number that is flushed right is its digits behind spaces. -/
theorem toList_flushedRight (width n : Nat) : (flushedRight width n).toList
    = List.replicate (width - (Nat.toDigits 10 n).length) ' ' ++ Nat.toDigits 10 n := by
  have hlength : (toString n).length = (Nat.toDigits 10 n).length := by
    rw [← String.length_toList, Nat.toString_eq_repr, Nat.toList_repr]
  unfold flushedRight
  dsimp only
  rw [hlength]
  simp [spaces]

/-- Digits and spaces are one row. -/
theorem oneRow_flushedRight (width n : Nat) : OneRow (flushedRight width n) := by
  unfold OneRow
  rw [toList_flushedRight, List.mem_append]
  rintro (hmem | hmem)
  · simp at hmem
  · have hdigit := Nat.isDigit_of_mem_toDigits (by decide) (by decide) hmem
    cases hdigit

/-- A row with a line in it is one row if the line is. -/
theorem oneRow_lineRow (width : Nat) (marked : Bool) (number : Nat) {line : String}
    (h : OneRow line) :
    OneRow (lineRow width marked number line) := by
  have hmark : OneRow (if marked then ">" else " ") := by cases marked <;> decide
  simp only [lineRow, oneRow_append]
  exact ⟨⟨⟨⟨hmark, by decide⟩, oneRow_flushedRight _ _⟩, by decide⟩, h⟩

/-- The row with the caret is one row. -/
theorem oneRow_caretRow (width : Nat) (column : Int) : OneRow (caretRow width column) := by
  simp only [caretRow, oneRow_append]
  exact ⟨⟨⟨⟨by decide, oneRow_spaces _⟩, by decide⟩, oneRow_spaces _⟩, by decide⟩

/-- The lines of a text have no line feed in them. -/
theorem oneRow_of_mem_lines {text line : String} (h : line ∈ Text.lines text) : OneRow line := by
  obtain ⟨i, hi, rfl⟩ := List.getElem_of_mem h
  obtain ⟨_, _, -, hisline⟩ := Text.exists_isLine hi
  intro hmem
  have hends := hisline.unbroken _ hmem
  cases hends

/-- A row with a line in it is marked as it was meant to be. -/
theorem isMarked_lineRow (width : Nat) (marked : Bool) (number : Nat) (line : String) :
    isMarked (lineRow width marked number line) = marked := by
  cases marked <;> simp [isMarked, lineRow]

/-- The row with the caret is not marked. -/
theorem isMarked_caretRow (width : Nat) (column : Int) :
    isMarked (caretRow width column) = false := by
  simp [isMarked, caretRow]

/-- A number that fits into its column leaves the line behind it in its place. -/
theorem showsLine_lineRow {width number : Nat} (h : (Nat.toDigits 10 number).length ≤ width)
    (marked : Bool) (line : String) :
    ShowsLine (width + 5) marked number line (lineRow width marked number line) := by
  let blanks := width - (Nat.toDigits 10 number).length
  let margin := (if marked then '>' else ' ') ::
    (List.replicate (blanks + 1) ' ' ++ Nat.toDigits 10 number ++ [' ', '|', ' '])
  have hmark : (if marked then ">" else " ").toList = [if marked then '>' else ' '] := by
    cases marked <;> rfl
  have hrow : (lineRow width marked number line).toList = margin ++ line.toList := by
    simp [lineRow, toList_flushedRight, hmark, margin, blanks, List.replicate_succ]
  have hlength : margin.length = width + 5 := by
    simp [margin, blanks]
    omega
  exact ⟨margin, hrow, hlength, blanks, rfl⟩

/-- The characters of a line stand in its row as far behind the margin as they do in the line. -/
theorem ShowsLine.getElem? {width number : Nat} {marked : Bool} {line row : String}
    (h : ShowsLine width marked number line row) (k : Nat) :
    row.toList[width + k]? = line.toList[k]? := by
  obtain ⟨margin, hrow, rfl, -⟩ := h
  rw [hrow, List.getElem?_append_right (Nat.le_add_right _ _), Nat.add_sub_cancel_left]

/-- A character that stands only at the end of a text is found nowhere else. -/
theorem getElem?_concat_eq_some_iff {front : List Char} {c : Char} (h : c ∉ front) (k : Nat) :
    (front ++ [c])[k]? = some c ↔ k = front.length := by
  constructor
  · intro hk
    have hge : front.length ≤ k := by
      by_contra hlt
      rw [List.getElem?_append_left (by omega)] at hk
      exact h (List.mem_of_getElem? hk)
    have hlt := (List.getElem?_eq_some_iff.mp hk).1
    rw [List.length_append, List.length_singleton] at hlt
    omega
  · rintro rfl
    simp

/-- The only caret of its row is under a column. -/
theorem getElem?_caretRow (width : Nat) {column : Nat} (h : 1 ≤ column) (k : Nat) :
    (caretRow width column).toList[k]? = some '^' ↔ k = width + 5 + (column - 1) := by
  let front := [' ', ' '] ++ List.replicate width ' ' ++ [' ', '|', ' ']
    ++ List.replicate (column - 1) ' '
  have hrow : (caretRow width column).toList = front ++ ['^'] := by
    have hcolumn : ((column : Int) - 1).toNat = column - 1 := by omega
    simp [caretRow, spaces, hcolumn, front]
  have hlength : front.length = width + 5 + (column - 1) := by
    simp [front]
    omega
  have hcaret : '^' ∉ front := by
    simp [front]
  rw [hrow, getElem?_concat_eq_some_iff hcaret, hlength]

/-! ### The lines that are shown -/

/-- The numbers of the lines in a window are those of the window that there are lines for. -/
theorem map_fst_numberedLines (lines : List String) (first last : Nat) :
    (numberedLines lines first last).map Prod.fst
      = List.Ico (max 1 first) (min (lines.length + 1) (last + 1)) := by
  have hall : (lines.zipIdx 1).map Prod.snd = List.Ico 1 (lines.length + 1) :=
    List.zipIdx_map_snd 1 lines
  have hshown : (numberedLines lines first last).map Prod.fst
      = ((List.Ico 1 (lines.length + 1)).filter (first ≤ ·)).filter (· < last + 1) := by
    -- The filter looks at numbers only, so it can as well be one on the list of all numbers.
    unfold numberedLines
    rw [← hall, List.filter_filter, List.filter_map, List.filter_map, List.map_map]
    refine congrArg _ (List.filter_congr fun p _ => ?_)
    have hbelow : decide (p.2 < last + 1) = decide (p.2 ≤ last) :=
      decide_eq_decide.mpr Nat.lt_succ_iff
    show (decide (first ≤ p.2) && decide (p.2 ≤ last))
      = (decide (p.2 < last + 1) && decide (first ≤ p.2))
    rw [hbelow, Bool.and_comm]
  rw [hshown, List.Ico.filter_le, List.Ico.filter_lt]

/-- A line is shown with its own number. -/
theorem getElem?_of_mem_numberedLines {lines : List String} {first last : Nat} {p : Nat × String}
    (h : p ∈ numberedLines lines first last) : lines[p.1 - 1]? = some p.2 := by
  obtain ⟨hmem, -⟩ := List.mem_filter.mp h
  obtain ⟨⟨line, i⟩, hline, rfl⟩ := List.mem_map.mp hmem
  exact (List.mk_mem_zipIdx_iff_le_and_getElem?_sub.mp hline).2

/-- A line that is shown has others in front of it and behind it. -/
theorem exists_numberedLines_around {lines : List String} {first last line : Nat}
    (hfirst : max 1 first ≤ line) (hlast : line < min (lines.length + 1) (last + 1)) :
    ∃ above shown below, numberedLines lines first last = above ++ (line, shown) :: below
      ∧ ∀ p ∈ above ++ below, p.1 ≠ line := by
  -- The numbers are cut at the line first, and the numbered lines where their numbers are.
  have hnumbers := map_fst_numberedLines lines first last
  rw [← List.Ico.append_consecutive hfirst hlast.le, List.Ico.eq_cons hlast,
    List.map_eq_append_iff] at hnumbers
  obtain ⟨above, rest, hsplit, habove, hrest⟩ := hnumbers
  obtain ⟨⟨number, shown⟩, below, rfl, rfl, hbelow⟩ := List.map_eq_cons_iff.mp hrest
  refine ⟨above, shown, below, hsplit, fun p hp => ?_⟩
  rcases List.mem_append.mp hp with hp | hp
  · have hmem := List.mem_map_of_mem (f := Prod.fst) hp
    rw [habove, List.Ico.mem] at hmem
    exact hmem.2.ne
  · have hmem := List.mem_map_of_mem (f := Prod.fst) hp
    rw [hbelow, List.Ico.mem] at hmem
    exact (Nat.lt_of_succ_le hmem.1).ne'

/-! ### All rows -/

section

variable (width line : Nat) (column : Option Int)

/-- The row that shows a numbered line, in an excerpt around the line with the number `line`. -/
def rowOf (p : Nat × String) : String := lineRow width (p.1 == line) p.1 p.2

/-- The line itself is marked. -/
theorem rowOf_self (shown : String) :
    rowOf width line (line, shown) = lineRow width true line shown := by
  simp [rowOf]

/-- The row with the caret, if there is a column to point at. -/
def caretRows : List String := ((column.filter (· != 0)).map (caretRow width)).toList

/-- Every line has its row, and the line itself has the caret behind it. -/
theorem excerptRows_eq_flatMap (numbered : List (Nat × String)) :
    excerptRows width line column numbered = numbered.flatMap fun p =>
      rowOf width line p :: if p.1 = line then caretRows width column else [] := by
  induction numbered with
  | nil => rfl
  | cons p rest ih =>
    obtain ⟨number, text⟩ := p
    rw [excerptRows, ih, List.flatMap_cons]
    by_cases hnumber : number = line
    · cases hcolumn : column.filter (· != 0) <;> simp [rowOf, caretRows, hnumber, hcolumn]
    · simp [rowOf, hnumber]

/-- An excerpt of lines that are one row each has rows that are. -/
theorem oneRow_of_mem_excerptRows {numbered : List (Nat × String)}
    (h : ∀ p ∈ numbered, OneRow p.2) : ∀ row ∈ excerptRows width line column numbered,
      OneRow row := by
  intro row hrow
  rw [excerptRows_eq_flatMap] at hrow
  obtain ⟨p, hp, hrow⟩ := List.mem_flatMap.mp hrow
  rcases List.mem_cons.mp hrow with rfl | hcaret
  · exact oneRow_lineRow _ _ _ (h p hp)
  · split at hcaret
    · obtain ⟨c, -, rfl⟩ := Option.map_eq_some_iff.mp (Option.mem_toList.mp hcaret)
      exact oneRow_caretRow _ _
    · cases hcaret

/-- Every line that is shown has its row, all with a margin for the last number. -/
theorem forall₂_showsLine {lines : List String} {first last : Nat} (hfirst : 1 ≤ first)
    (hlast : last ≤ lines.length) :
    let width := (Nat.toDigits 10 last).length
    List.Forall₂
      (fun number row => ∃ shown, lines[number - 1]? = some shown ∧
        ShowsLine (width + 5) (number == line) number shown row)
      (List.Ico first (last + 1)) ((numberedLines lines first last).map (rowOf width line)) := by
  intro width
  have hnumbers : (numberedLines lines first last).map Prod.fst = List.Ico first (last + 1) := by
    rw [map_fst_numberedLines, Nat.max_eq_right hfirst, Nat.min_eq_right (by omega)]
  rw [← hnumbers, List.forall₂_map_left_iff, List.forall₂_map_right_iff, List.forall₂_same]
  intro p hp
  have hmem : p.1 ∈ List.Ico first (last + 1) := hnumbers ▸ List.mem_map_of_mem hp
  have hnumber : p.1 ≤ last := Nat.le_of_lt_succ (List.Ico.mem.mp hmem).2
  exact ⟨p.2, getElem?_of_mem_numberedLines hp,
    showsLine_lineRow (Number.length_toDigits_mono hnumber) _ _⟩

variable {line} {above below : List (Nat × String)} (hothers : ∀ p ∈ above ++ below, p.1 ≠ line)
include hothers

/-- The rows in front of a line, its own row and that of the caret, and the rows behind it. -/
theorem excerptRows_around (shown : String) :
    excerptRows width line column (above ++ (line, shown) :: below)
      = above.map (rowOf width line) ++ rowOf width line (line, shown) ::
        (caretRows width column ++ below.map (rowOf width line)) := by
  -- Away from the line there is no caret, and so one row for each line.
  have hrows : ∀ numbered : List (Nat × String), (∀ p ∈ numbered, p.1 ≠ line) →
      excerptRows width line column numbered = numbered.map (rowOf width line) := by
    intro numbered hnumbered
    rw [excerptRows_eq_flatMap, ← List.flatMap_singleton' (numbered.map _), List.flatMap_map]
    refine List.flatMap_congr fun p hp => ?_
    simp [hnumbered p hp]
  obtain ⟨habove, hbelow⟩ := List.forall_mem_append.mp hothers
  have habove := hrows above habove
  have hbelow := hrows below hbelow
  rw [excerptRows_eq_flatMap] at habove hbelow ⊢
  rw [List.flatMap_append, List.flatMap_cons, habove, hbelow]
  simp

/-- Only the row of the line itself is marked. -/
theorem filter_isMarked_around (shown : String) :
    (above.map (rowOf width line) ++ rowOf width line (line, shown) ::
        (caretRows width column ++ below.map (rowOf width line))).filter isMarked
      = [rowOf width line (line, shown)] := by
  have hrows : ∀ numbered : List (Nat × String), (∀ p ∈ numbered, p.1 ≠ line) →
      (numbered.map (rowOf width line)).filter isMarked = [] := by
    intro numbered hnumbered
    refine List.filter_eq_nil_iff.mpr (List.forall_mem_map.mpr fun p hp => ?_)
    simp [rowOf, isMarked_lineRow, hnumbered p hp]
  have hself : isMarked (rowOf width line (line, shown)) = true := by
    rw [rowOf_self, isMarked_lineRow]
  have hcaret : (caretRows width column).filter isMarked = [] := by
    unfold caretRows
    cases column.filter (· != 0) <;> simp [isMarked_caretRow]
  obtain ⟨habove, hbelow⟩ := List.forall_mem_append.mp hothers
  rw [List.filter_append, List.filter_cons_of_pos hself, List.filter_append, hrows above habove,
    hrows below hbelow, hcaret]
  rfl

end

/-- The rows of an excerpt around a line of a text: those of the lines that are shown, of which the
line is one. -/
theorem rowsOf_excerpt_around {text : String} {line : Nat} (hfirst : 1 ≤ line)
    (hlast : line ≤ (Text.lines text).length) (column : Option Int) (radius : Nat) :
    let last := min (Text.lines text).length (line + radius)
    let width := (Nat.toDigits 10 last).length
    ∃ above shown below,
      numberedLines (Text.lines text) (max 1 (line - radius)) last
        = above ++ (line, shown) :: below ∧
      (∀ p ∈ above ++ below, p.1 ≠ line) ∧
      rowsOf (excerpt text line column radius)
        = above.map (rowOf width line) ++ rowOf width line (line, shown) ::
          (caretRows width column ++ below.map (rowOf width line)) := by
  intro last width
  have hstarts : max 1 (max 1 (line - radius)) ≤ line := by omega
  have hends : line < min ((Text.lines text).length + 1) (last + 1) := by omega
  obtain ⟨above, shown, below, hshown, hothers⟩ := exists_numberedLines_around hstarts hends
  have hrows := excerptRows_around width column hothers shown
  have hone : ∀ p ∈ numberedLines (Text.lines text) (max 1 (line - radius)) last, OneRow p.2 :=
    fun p hp => oneRow_of_mem_lines (List.mem_of_getElem? (getElem?_of_mem_numberedLines hp))
  rw [hshown] at hone
  have hexcerpt : excerpt text line column radius
      = "\n".intercalate (excerptRows width line column (above ++ (line, shown) :: below)) := by
    -- An excerpt counts with integers, as it may be asked for lines that there are not.
    have hnot : ¬ ((line : Int) < 1 ∨ (line : Int) > (Text.lines text).length) := by omega
    have hstart : (max 1 ((line : Int) - radius)).toNat = max 1 (line - radius) := by omega
    have hend : min ((Text.lines text).length : Int) ((line : Int) + radius) = (last : Int) := by
      omega
    have hwidth : (toString (last : Int)).length = width := by
      rw [← String.length_toList]
      exact congrArg List.length Nat.toList_repr
    unfold excerpt
    dsimp only
    rw [if_neg hnot, hstart, hend, hwidth, Int.toNat_natCast, Int.toNat_natCast, hshown]
  refine ⟨above, shown, below, hshown, hothers, ?_⟩
  rw [hexcerpt, rowsOf_intercalate _ (oneRow_of_mem_excerptRows width line column hone), hrows]
  simp [hrows]

/-- An excerpt shows the lines around a line of a text as they are, in order and each with its own
number, as many on both sides as the radius says and the text has. All rows have a margin of one
width, and the row of the line itself is the only one with a mark. The row behind that one has a
caret, under the character in the column or, if the line ends before it, where that character would
be. -/
theorem excerpt_shows_window {text : String} {line : Nat} (hfirst : 1 ≤ line)
    (hlast : line ≤ (Text.lines text).length) (radius : Nat) {column : Nat} (hcolumn : 1 ≤ column) :
    ∃ width above row caret below shown,
      rowsOf (excerpt text line (some (column : Int)) radius) = above ++ row :: caret :: below ∧
      List.Forall₂
        (fun number row => ∃ shown, (Text.lines text)[number - 1]? = some shown ∧
          ShowsLine width (number == line) number shown row)
        (List.Ico (max 1 (line - radius)) (min (Text.lines text).length (line + radius) + 1))
        (above ++ row :: below) ∧
      (rowsOf (excerpt text line (some (column : Int)) radius)).filter isMarked = [row] ∧
      (Text.lines text)[line - 1]? = some shown ∧
      ShowsLine width true line shown row ∧
      (∀ k, caret.toList[k]? = some '^' ↔ k = width + (column - 1)) ∧
      row.toList[width + (column - 1)]? = shown.toList[column - 1]? := by
  obtain ⟨above, shown, below, hnumbered, hothers, hrows⟩ :=
    rowsOf_excerpt_around hfirst hlast (some (column : Int)) radius
  let last := min (Text.lines text).length (line + radius)
  let width := (Nat.toDigits 10 last).length
  have hmarked := filter_isMarked_around width (some (column : Int)) hothers shown
  rw [← hrows] at hmarked
  have hcaret : caretRows width (some (column : Int)) = [caretRow width column] := by
    have hne : column ≠ 0 := by omega
    simp [caretRows, hne]
  have hstart : 1 ≤ max 1 (line - radius) := Nat.le_max_left _ _
  have hend : last ≤ (Text.lines text).length := Nat.min_le_left _ _
  have hall := forall₂_showsLine line hstart hend
  -- The line is one of those shown, so its number fits into the column like all others.
  have hline : (line, shown) ∈ numberedLines (Text.lines text) (max 1 (line - radius)) last := by
    rw [hnumbered]
    simp
  have hshows : ShowsLine (width + 5) true line shown (rowOf width line (line, shown)) := by
    rw [rowOf_self]
    exact showsLine_lineRow (Number.length_toDigits_mono (by omega)) true shown
  refine ⟨width + 5, above.map (rowOf width line), rowOf width line (line, shown),
    caretRow width column, below.map (rowOf width line), shown, ?_, ?_, hmarked,
    getElem?_of_mem_numberedLines hline, hshows, getElem?_caretRow width hcolumn,
    hshows.getElem? (column - 1)⟩
  · rw [hrows, hcaret]
    rfl
  · rw [← List.map_cons, ← List.map_append, ← hnumbered]
    exact hall

/-- Ten lines, with line ends of several kinds. -/
def tenLines : String := "a\nb\r\nc\u2028d\ne\nf\ng\nh\nij\nk"

/-- The numbers gain a digit behind the line that is marked, and the caret is behind its end. -/
theorem excerpt_shows_window_of_ten :
    9 ≤ (Text.lines tenLines).length ∧
      ∃ width above row caret below,
        rowsOf (excerpt tenLines 9 (some 4)) = above ++ row :: caret :: below ∧
        (above ++ row :: below).length = 4 ∧
        ShowsLine width true 9 "ij" row ∧
        (∀ k, caret.toList[k]? = some '^' ↔ k = width + 3) ∧
        row.toList[width + 3]? = none := by
  have hfirst : 1 ≤ 9 := by decide
  have hlast : 9 ≤ (Text.lines tenLines).length := by decide
  have hfour : 1 ≤ 4 := by decide
  obtain ⟨width, above, row, caret, below, shown, hrows, hall, -, hline, hshows, hcaret, hcolumn⟩ :=
    excerpt_shows_window hfirst hlast 2 hfour
  have hten : (Text.lines tenLines)[9 - 1]? = some "ij" := by decide
  obtain rfl := Option.some.inj (hline.symm.trans hten)
  exact ⟨hlast, width, above, row, caret, below, hrows, hall.length_eq.symm, hshows, hcaret,
    hcolumn⟩

example : excerpt tenLines 9 (some 4) = "   7 | g\n   8 | h\n>  9 | ij\n     |    ^\n  10 | k" := by
  decide +kernel

end AttrTemplates
