import AttrTemplates.Text.Blank
import AttrTemplates.Text.Word
import Mathlib.Data.List.DropRight
import Mathlib.Data.List.Infix
import Mathlib.Data.List.TakeWhile

/-!
# `AttrTemplates.Proofs.Text.Pieces`: texts that are trimmed and taken apart

Expressions and arguments are read by splitting at one character and trimming the pieces. Splitting
is that of lists (`splitAt_eq_splitOn`), so it goes through what is put together with separators.
Trimming takes nothing from a text that is not empty and has no white space at its ends
(`IsTrimmed`). What either leaves stands in the text as it was.
-/

set_option autoImplicit false

namespace AttrTemplates

namespace Text

/-! ### White space and words -/

/-- No range of word characters reaches over a blank. -/
private theorem wordRanges_between_blanks :
    (wordRanges.toList.all fun (lo, hi) => 0x3000 < lo || (0x205F < lo && hi < 0x3000)
      || (0x202F < lo && hi < 0x205F) || (0x2029 < lo && hi < 0x202F)
      || (0x200A < lo && hi < 0x2028) || (0x1680 < lo && hi < 0x2000)
      || (0xA0 < lo && hi < 0x1680) || (0x85 < lo && hi < 0xA0) || hi < 0x85) = true := by
  decide +kernel

/-- A blank is no word character. -/
theorem isWord_of_isBlank {c : Char} (h : isBlank c = true) : isWord c = false := by
  unfold isBlank at h
  simp only [Bool.or_eq_true, Bool.and_eq_true, decide_eq_true_eq, beq_iff_eq] at h
  by_cases hascii : c.toNat < 0x80
  · have hcontrol : ∀ n ∈ List.range 0x21,
        ((Char.ofNat n).isAlphanum || Char.ofNat n == '_') = false := by decide +kernel
    have hno := hcontrol c.toNat (List.mem_range.mpr (by omega))
    rwa [Char.ofNat_toNat, ← isWord_ascii c hascii] at hno
  · unfold isWord
    rw [if_neg hascii, ← Array.any_toList, List.any_eq_false]
    rintro ⟨lo, hi⟩ hmem
    have hbetween := List.all_eq_true.mp wordRanges_between_blanks _ hmem
    simp only [Bool.or_eq_true, Bool.and_eq_true, decide_eq_true_eq] at hbetween ⊢
    omega

/-! ### Splitting -/

section

variable {sep : Char}

/-- To split at a character is what the library does with a separator. -/
theorem splitAt_eq_splitOn (sep : Char) (cs : List Char) : splitAt sep cs = cs.splitOn sep := by
  induction cs with
  | nil => rfl
  | cons c cs ih =>
    rw [splitAt, ih, List.splitOn_cons_eq_if_modifyHead]
    simp only [beq_iff_eq]
    split
    · rfl
    · cases hpieces : cs.splitOn sep with
      | nil => exact (List.splitOn_ne_nil sep cs hpieces).elim
      | cons piece pieces => rfl

/-- A piece without the separator is the only one. -/
theorem splitAt_of_not_mem {cs : List Char} (h : sep ∉ cs) : splitAt sep cs = [cs] := by
  rw [splitAt_eq_splitOn, List.splitOn_eq_singleton h]

/-- A separator between two texts is one between their pieces. -/
theorem splitAt_append (sep : Char) (cs ds : List Char) :
    splitAt sep (cs ++ sep :: ds) = splitAt sep cs ++ splitAt sep ds := by
  simp only [splitAt_eq_splitOn, List.splitOn_append_cons_self]

/-- The first piece ends at the first separator. -/
theorem splitAt_append_cons {cs : List Char} (h : sep ∉ cs) (rest : List Char) :
    splitAt sep (cs ++ sep :: rest) = cs :: splitAt sep rest := by
  rw [splitAt_append, splitAt_of_not_mem h, List.singleton_append]

/-- A character that does not separate belongs to the first piece. -/
theorem splitAt_cons_of_ne {c : Char} (hc : c ≠ sep) (cs : List Char) :
    splitAt sep (c :: cs) = (splitAt sep cs).modifyHead (c :: ·) := by
  simp [splitAt_eq_splitOn, List.splitOn_cons_eq_if_modifyHead, hc]

/-- The pieces of a text stand in it, and the first one at its start. -/
theorem splitAt_isInfix (sep : Char) (cs : List Char) :
    (∀ piece ∈ (splitAt sep cs).head?, piece <+: cs) ∧ ∀ piece ∈ splitAt sep cs, piece <:+: cs := by
  induction cs with
  | nil => simp [splitAt]
  | cons c cs ih =>
    obtain ⟨hfirst, hall⟩ := ih
    have hbehind : ∀ piece ∈ splitAt sep cs, piece <:+: c :: cs :=
      fun piece hpiece => (hall piece hpiece).trans (List.suffix_cons c cs).isInfix
    rw [splitAt]
    split
    · -- At a separator the first piece is empty, and the pieces of the rest follow.
      refine ⟨by simp, List.forall_mem_cons.mpr ⟨List.nil_infix, hbehind⟩⟩
    · cases hpieces : splitAt sep cs with
      | nil => exact (splitAt_ne_nil sep cs hpieces).elim
      | cons piece pieces =>
        rw [hpieces] at hfirst hbehind
        -- Otherwise the character joins the first piece of the rest.
        have hlonger : c :: piece <+: c :: cs :=
          List.cons_prefix_cons.mpr ⟨rfl, hfirst piece rfl⟩
        refine ⟨by simpa using hlonger, List.forall_mem_cons.mpr ⟨hlonger.isInfix, ?_⟩⟩
        exact fun p hp => hbehind p (List.mem_cons_of_mem _ hp)

/-- The pieces between separators are made of what was there. -/
theorem mem_of_mem_splitAt {c : Char} {cs piece : List Char} (hpiece : piece ∈ splitAt sep cs)
    (hc : c ∈ piece) : c ∈ cs :=
  ((splitAt_isInfix sep cs).2 piece hpiece).subset hc

end

/-! ### Trimming -/

/-- What is left of a text is a stretch of it. -/
theorem trim_isInfix (cs : List Char) : trim cs <:+: cs := by
  have hend : trim cs <+: trimStart cs := by
    show (List.dropWhile isBlank (trimStart cs).reverse).reverse <+: trimStart cs
    rw [← List.reverse_suffix, List.reverse_reverse]
    exact List.dropWhile_suffix isBlank
  exact hend.isInfix.trans (List.dropWhile_suffix isBlank).isInfix

/-- What is left at the end was in the text. -/
theorem mem_of_mem_trimStart {c : Char} {cs : List Char} (h : c ∈ trimStart cs) : c ∈ cs :=
  (List.dropWhile_sublist isBlank).subset h

/-- What is left was in the text. -/
theorem mem_of_mem_trim {c : Char} {cs : List Char} (h : c ∈ trim cs) : c ∈ cs :=
  (trim_isInfix cs).subset h

/-- What is no white space is not trimmed away. -/
theorem mem_trim_of_mem {c : Char} (hc : isBlank c = false) {cs : List Char} (h : c ∈ cs) :
    c ∈ trim cs := by
  have hdrop : ∀ cs : List Char, c ∈ cs → c ∈ cs.dropWhile isBlank := by
    intro cs h
    rw [← cs.takeWhile_append_dropWhile (p := isBlank), List.mem_append] at h
    refine h.resolve_left fun hfront => ?_
    have hblank := List.all_eq_true.mp List.all_takeWhile c hfront
    rw [hc] at hblank
    cases hblank
  unfold trim trimEnd trimStart
  rw [List.mem_reverse]
  exact hdrop _ (List.mem_reverse.mpr (hdrop _ h))

/-- Nothing is left of a text by trimming just when it is white space. -/
theorem trim_eq_nil_iff {cs : List Char} : trim cs = [] ↔ ∀ c ∈ cs, isBlank c = true := by
  have hend : ∀ ds : List Char, trimEnd ds = [] ↔ ds.dropWhile isBlank = [] := by
    intro ds
    unfold trimEnd
    simp only [List.reverse_eq_nil_iff, List.dropWhile_eq_nil_iff, List.mem_reverse]
  unfold trim trimStart
  rw [hend, List.dropWhile_idempotent, List.dropWhile_eq_nil_iff]

/-- What leaves white space and other characters apart leaves the same at the ends. -/
theorem trim_map {f : Char → Char} (h : ∀ c, isBlank (f c) = isBlank c) (cs : List Char) :
    trim (cs.map f) = (trim cs).map f := by
  have hdrop : ∀ cs : List Char, (cs.map f).dropWhile isBlank = (cs.dropWhile isBlank).map f := by
    intro cs
    rw [List.dropWhile_map]
    congr 2
    funext c
    exact h c
  unfold trim trimEnd trimStart
  rw [hdrop, ← List.map_reverse, hdrop, List.map_reverse]

/-- A space in front is left out. -/
theorem trim_space_cons (cs : List Char) : trim (' ' :: cs) = trim cs := by
  have hspace : isBlank ' ' = true := by decide
  simp [trim, trimStart, hspace]

/-- White space around a text is trimmed away, whatever is left of the text. -/
theorem trim_blanks_append {ws : List Char} (hws : ∀ c ∈ ws, isBlank c = true) (cs : List Char) :
    trim (ws ++ cs) = trim cs := by
  unfold trim trimStart
  rw [List.dropWhile_append_of_pos hws]

/-- Blanks at the end are left out. -/
theorem trim_append_blanks {ws : List Char} (hws : ∀ c ∈ ws, isBlank c = true) (cs : List Char) :
    trim (cs ++ ws) = trim cs := by
  have hend : ∀ ds : List Char, trimEnd (ds ++ ws) = trimEnd ds := by
    intro ds
    unfold trimEnd
    rw [List.reverse_append,
      List.dropWhile_append_of_pos fun c hc => hws c (List.mem_reverse.mp hc)]
  unfold trim trimStart
  rw [List.dropWhile_append]
  split
  · rename_i hnil
    rw [List.isEmpty_iff.mp hnil, List.dropWhile_eq_nil_iff.mpr hws]
  · exact hend _

/-- A text is what is left of it by trimming, with white space around. -/
theorem exists_blanks_around (cs : List Char) : ∃ front back,
    (∀ c ∈ front, isBlank c = true) ∧ (∀ c ∈ back, isBlank c = true)
      ∧ cs = front ++ (trim cs ++ back) := by
  refine ⟨cs.takeWhile isBlank, (trimStart cs).rtakeWhile isBlank, fun c => List.mem_takeWhile_imp,
    fun c => List.mem_rtakeWhile_imp, ?_⟩
  show cs = _ ++ ((trimStart cs).rdropWhile isBlank ++ (trimStart cs).rtakeWhile isBlank)
  rw [List.rdropWhile_append_rtakeWhile]
  exact (List.takeWhile_append_dropWhile ..).symm

section

variable {sep : Char} (hsep : isBlank sep = false) {ws : List Char}
  (hws : ∀ c ∈ ws, isBlank c = true)

include hsep in
/-- A separator is not among blanks, unless it is one. -/
theorem not_mem_blanks (hws : ∀ c ∈ ws, isBlank c = true) : sep ∉ ws := by
  intro hmem
  rw [hws sep hmem] at hsep
  cases hsep

include hsep hws

/-- White space in front of a text belongs to its first piece, and is trimmed away with it. -/
theorem map_trim_splitAt_blanks_append (cs : List Char) :
    (splitAt sep (ws ++ cs)).map trim = (splitAt sep cs).map trim := by
  have hnot := not_mem_blanks hsep hws
  by_cases hmem : sep ∈ cs
  · obtain ⟨a, b, rfl, ha⟩ := List.eq_append_cons_of_mem hmem
    have hwsa : sep ∉ ws ++ a := by simp [hnot, ha]
    rw [← List.append_assoc, splitAt_append_cons hwsa, splitAt_append_cons ha, List.map_cons,
      List.map_cons, trim_blanks_append hws]
  · have hwscs : sep ∉ ws ++ cs := by simp [hnot, hmem]
    rw [splitAt_of_not_mem hwscs, splitAt_of_not_mem hmem, List.map_singleton, List.map_singleton,
      trim_blanks_append hws]

/-- White space behind a text belongs to its last piece. -/
theorem map_trim_splitAt_append_blanks (cs : List Char) :
    (splitAt sep (cs ++ ws)).map trim = (splitAt sep cs).map trim := by
  have hnot := not_mem_blanks hsep hws
  -- The pieces in front of the last one are the same, one after the other.
  induction h : cs.length using Nat.strong_induction_on generalizing cs with
  | _ n ih =>
    by_cases hmem : sep ∈ cs
    · obtain ⟨a, b, rfl, ha⟩ := List.eq_append_cons_of_mem hmem
      have hshorter : b.length < n := by
        rw [← h, List.length_append, List.length_cons]
        omega
      rw [List.append_assoc, List.cons_append, splitAt_append_cons ha, splitAt_append_cons ha,
        List.map_cons, List.map_cons, ih b.length hshorter b rfl]
    · have hcsws : sep ∉ cs ++ ws := by simp [hnot, hmem]
      rw [splitAt_of_not_mem hcsws, splitAt_of_not_mem hmem, List.map_singleton,
        List.map_singleton, trim_append_blanks hws]

omit hws in
/-- Pieces that are trimmed are the same whether or not the whole text was trimmed before. -/
theorem map_trim_splitAt_trim (cs : List Char) :
    (splitAt sep (trim cs)).map trim = (splitAt sep cs).map trim := by
  obtain ⟨front, back, hfront, hback, hcs⟩ := exists_blanks_around cs
  conv_rhs => rw [hcs, map_trim_splitAt_blanks_append hsep hfront,
    map_trim_splitAt_append_blanks hsep hback]

end

/-! ### Texts that are trimmed -/

/-- If the first character is no blank there are none to drop. -/
theorem dropWhile_isBlank_of_head? {cs : List Char}
    (h : ∀ c, cs.head? = some c → isBlank c = false) : cs.dropWhile isBlank = cs := by
  cases cs with
  | nil => rfl
  | cons c cs => simp [h c rfl]

/-- There is nothing to trim where there is no white space. -/
theorem trim_of_forall {cs : List Char} (h : ∀ c ∈ cs, isBlank c = false) : trim cs = cs := by
  have hstart : cs.dropWhile isBlank = cs :=
    dropWhile_isBlank_of_head? fun c hc => h c (List.mem_of_mem_head? hc)
  have hend : cs.reverse.dropWhile isBlank = cs.reverse :=
    dropWhile_isBlank_of_head? fun c hc => h c (List.mem_reverse.mp (List.mem_of_mem_head? hc))
  unfold trim trimStart trimEnd
  rw [hstart, hend, List.reverse_reverse]

/-- A text without white space at its ends, and not empty. -/
structure IsTrimmed (cs : List Char) : Prop where
  ne_nil : cs ≠ []
  head : ∀ c, cs.head? = some c → isBlank c = false
  last : ∀ c, cs.getLast? = some c → isBlank c = false

/-- A text is trimmed if it is not empty and begins and ends with a character that is no blank. -/
theorem isTrimmed_iff {cs : List Char} : IsTrimmed cs
    ↔ cs ≠ [] ∧ cs.head?.all (!isBlank ·) = true ∧ cs.getLast?.all (!isBlank ·) = true := by
  simp only [Option.all_eq_true, Bool.not_eq_true']
  exact ⟨fun ⟨hne, hhead, hlast⟩ => ⟨hne, hhead, hlast⟩, fun ⟨hne, hhead, hlast⟩ =>
    ⟨hne, hhead, hlast⟩⟩

/-- Whether a text is trimmed is seen from its ends. -/
instance (cs : List Char) : Decidable (IsTrimmed cs) := decidable_of_iff _ isTrimmed_iff.symm

/-- What leaves white space and other characters apart makes no difference at the ends. -/
theorem isTrimmed_map_iff {f : Char → Char} (h : ∀ c, isBlank (f c) = isBlank c) {cs : List Char} :
    IsTrimmed (cs.map f) ↔ IsTrimmed cs := by
  simp only [isTrimmed_iff, List.head?_map, List.getLast?_map, Option.all_map, h,
    ne_eq, List.map_eq_nil_iff]

/-- What is left by trimming is trimmed. -/
theorem isTrimmed_trim {cs : List Char} (h : trim cs ≠ []) : IsTrimmed (trim cs) := by
  refine ⟨h, fun c hc => ?_, fun c hc => ?_⟩
  · -- Trimming the end does not change how it begins.
    obtain ⟨behind, hbehind⟩ : trim cs <+: trimStart cs := List.rdropWhile_prefix isBlank _
    refine head?_trimStart_not_blank cs c ?_
    rw [← hbehind, List.head?_append, hc, Option.some_or]
  · have hlast := List.head?_dropWhile_not isBlank (trimStart cs).reverse
    unfold trim trimEnd at hc
    rw [List.getLast?_reverse] at hc
    rw [hc] at hlast
    simpa using hlast

namespace IsTrimmed

variable {cs ds : List Char}

/-- There is nothing to trim. -/
theorem trim_eq (h : IsTrimmed cs) : trim cs = cs := by
  have hlast : ∀ c, cs.reverse.head? = some c → isBlank c = false := by
    intro c hc
    exact h.last c (by simpa using hc)
  unfold trim trimStart trimEnd
  rw [dropWhile_isBlank_of_head? h.head, dropWhile_isBlank_of_head? hlast, List.reverse_reverse]

/-- A text without blanks is trimmed if there is anything in it. -/
theorem of_forall (hne : cs ≠ []) (h : ∀ c ∈ cs, isBlank c = false) : IsTrimmed cs :=
  ⟨hne, fun c hc => h c (List.mem_of_mem_head? hc), fun c hc => h c (List.mem_of_mem_getLast? hc)⟩

/-- Only the end of what stands behind such a text matters, not where it begins. -/
theorem append (hcs : IsTrimmed cs) (hlast : ∀ c, ds.getLast? = some c → isBlank c = false) :
    IsTrimmed (cs ++ ds) := by
  refine ⟨by simp [hcs.ne_nil], fun c hc => hcs.head c ?_, fun c hc => ?_⟩
  · rwa [List.head?_append, List.head?_eq_some_head hcs.ne_nil, Option.some_or,
      ← List.head?_eq_some_head] at hc
  · rw [List.getLast?_append, Option.or_eq_some_iff] at hc
    rcases hc with hc | ⟨-, hc⟩
    · exact hlast c hc
    · exact hcs.last c hc

/-- So there may be white space between two of them. -/
theorem append_space_cons (hcs : IsTrimmed cs) (hds : IsTrimmed ds) :
    IsTrimmed (cs ++ ' ' :: ds) := by
  refine hcs.append fun c hc => hds.last c ?_
  rwa [List.getLast?_cons_of_ne_nil hds.ne_nil] at hc

end IsTrimmed

end Text

end AttrTemplates
