import AttrTemplates.Proofs.Text.Pieces
import AttrTemplates.Text.Lines

/-!
# `AttrTemplates.Proofs.Text.Lines`: where the lines of a text stand in it

The lines of a text leave out what ends them. `Separated` tells both, a line and its end, and
`exists_isLine` puts a line back in its place: behind as many line ends as there are lines in front
of it, up to the next one.

A reader of documents counts lines by line feeds alone. `IsFeedLine` is a line in that sense.
Nearly always it is one in the other sense too, but every line end that has no line feed puts the
two counts apart: `IsLine.isFeedLine_iff`.
-/

set_option autoImplicit false

namespace AttrTemplates

namespace Text

/-- No line ends among characters. -/
def Unbroken (cs : List Char) : Prop := ∀ c ∈ cs, endsLine c = false

/-- The lines of a text, each with what ends it. The last one may end with the text. -/
inductive Separated : List Char → List (List Char × List Char) → Prop
  | nil : Separated [] []
  | last {line : List Char} : Unbroken line → Separated line [(line, [])]
  /-- A carriage return with a line feed is one line end. -/
  | pair {line rest : List Char} {ls : List (List Char × List Char)} : Unbroken line →
    Separated rest ls → Separated (line ++ '\r' :: '\n' :: rest) ((line, ['\r', '\n']) :: ls)
  | single {line rest : List Char} {ls : List (List Char × List Char)} {c : Char} : Unbroken line →
    endsLine c = true → (c = '\r' → rest.head? ≠ some '\n') → Separated rest ls →
      Separated (line ++ c :: rest) ((line, [c]) :: ls)

/-- The lines of a text are what is separated by line ends. -/
theorem exists_separated_linesFrom (started : List Char) (pending : Bool) (cs : List Char)
    (hstarted : Unbroken started) (hpending : pending = false → started = []) :
    ∃ ls, Separated (started.reverse ++ cs) ls ∧ linesFrom started pending cs = ls.map Prod.fst := by
  have hline : ∀ started, Unbroken started → Unbroken started.reverse :=
    fun started h c hc => h c (List.mem_reverse.mp hc)
  have hfresh : Unbroken [] := fun c hc => nomatch hc
  -- The line that has been started is read backwards, and holds no end of a line.
  fun_induction linesFrom started pending cs with
  | case1 started =>
    refine ⟨[(started.reverse, [])], ?_, rfl⟩
    rw [List.append_nil]
    exact .last (hline started hstarted)
  | case2 started pending hnot =>
    rw [hpending (Bool.eq_false_iff.mpr hnot)]
    exact ⟨[], .nil, rfl⟩
  | case3 started pending cs ih =>
    obtain ⟨ls, hls, hlines⟩ := ih hfresh fun _ => rfl
    exact ⟨_, .pair (hline started hstarted) hls, by rw [hlines]; rfl⟩
  | case4 started pending c cs hpair hends ih =>
    obtain ⟨ls, hls, hlines⟩ := ih hfresh fun _ => rfl
    refine ⟨_, .single (hline started hstarted) hends (fun hc hfeed => ?_) hls, by rw [hlines]; rfl⟩
    obtain ⟨rest, rfl⟩ := List.head?_eq_some_iff.mp hfeed
    exact hpair _ hc rfl
  | case5 started pending c cs hpair hends ih =>
    have hmore : Unbroken (c :: started) :=
      List.forall_mem_cons.mpr ⟨Bool.eq_false_iff.mpr hends, hstarted⟩
    obtain ⟨ls, hls, hlines⟩ := ih hmore fun h => nomatch h
    rw [List.reverse_cons, List.append_assoc] at hls
    exact ⟨ls, hls, hlines⟩

/-! ### Lines in their places -/

/-- The number of line ends in a text. -/
def lineEnds : List Char → Nat
  | [] => 0
  | '\r' :: '\n' :: cs => lineEnds cs + 1
  | c :: cs => (if endsLine c then 1 else 0) + lineEnds cs

/-- A part of a text is the line behind a number of line ends. -/
structure IsLine (n : Nat) (before shown behind : List Char) : Prop where
  ends : lineEnds before = n
  start : before = [] ∨ ∃ c, before.getLast? = some c ∧ endsLine c = true
  /-- It does not begin inside a line end. -/
  whole : before.getLast? = some '\r' → (shown ++ behind).head? ≠ some '\n'
  unbroken : Unbroken shown
  stop : behind = [] ∨ ∃ c rest, behind = c :: rest ∧ endsLine c = true

/-- A part of a text is the line behind a number of line feeds, as far as the carriage return in
front of the next one. -/
structure IsFeedLine (n : Nat) (before shown behind : List Char) : Prop where
  feeds : before.count '\n' = n
  start : before = [] ∨ before.getLast? = some '\n'
  unbroken : '\n' ∉ shown
  stop : behind = [] ∨ behind.head? = some '\n' ∨ ['\r', '\n'] <+: behind

/-- All line ends in a text are line feeds, maybe with a carriage return in front. -/
def FeedsOnly (cs : List Char) : Prop :=
  ∀ front c back, cs = front ++ c :: back → endsLine c = true →
    c = '\n' ∨ c = '\r' ∧ back.head? = some '\n'

/-- A line that is not broken ends no line. -/
theorem lineEnds_append_of_unbroken {line : List Char} (h : Unbroken line) (cs : List Char) :
    lineEnds (line ++ cs) = lineEnds cs := by
  induction line with
  | nil => rfl
  | cons c line ih =>
    obtain ⟨hc, hline⟩ := List.forall_mem_cons.mp h
    rw [List.cons_append, lineEnds, ih hline, hc]
    · simp
    · rintro _ rfl _
      cases hc

/-- A character that ends a line does so once, unless it is the first half of a pair. -/
theorem lineEnds_single {c : Char} {cs : List Char} (hc : endsLine c = true)
    (hpair : c = '\r' → cs.head? ≠ some '\n') : lineEnds (c :: cs) = lineEnds cs + 1 := by
  rw [lineEnds, hc, if_pos rfl, Nat.add_comm]
  rintro rest rfl rfl
  exact hpair rfl rfl

/-- A line stays a line when another one is put in front of it, with its end. -/
theorem IsLine.behind_end {n : Nat} {before shown behind front : List Char} {c : Char}
    (h : IsLine n before shown behind) (hc : endsLine c = true)
    (hends : lineEnds (front ++ c :: before) = n + 1)
    (hwhole : before = [] → c = '\r' → (shown ++ behind).head? ≠ some '\n') :
    IsLine (n + 1) (front ++ c :: before) shown behind := by
  have hlast : (front ++ c :: before).getLast? = some (before.getLast?.getD c) := by
    rw [List.getLast?_append, List.getLast?_cons]
    rfl
  refine ⟨hends, .inr ⟨_, hlast, ?_⟩, fun hreturn => ?_, h.unbroken, h.stop⟩
  · -- The text in front ends where it did before, or with the line end if there was none.
    rcases h.start with rfl | ⟨d, hd, hends⟩
    · exact hc
    · rw [hd]
      exact hends
  · -- A `\r` and the `\n` behind it are not torn apart.
    rw [hlast, Option.some.injEq] at hreturn
    cases hbefore : before.getLast? with
    | none =>
      rw [hbefore] at hreturn
      exact hwhole (List.getLast?_eq_none_iff.mp hbefore) hreturn
    | some d =>
      rw [hbefore] at hreturn
      obtain rfl : d = '\r' := hreturn
      exact h.whole hbefore

/-- Every line of a text stands in it, behind the line ends of those in front of it. -/
theorem Separated.exists_isLine {cs : List Char} {ls : List (List Char × List Char)}
    (h : Separated cs ls) {n : Nat} (hn : n < ls.length) : ∃ before behind,
      cs = before ++ (ls[n].1 ++ behind) ∧ IsLine n before ls[n].1 behind := by
  have hfeed : endsLine '\n' = true := by decide
  have hreturn : endsLine '\r' = true := by decide
  -- The first line begins the text; any other is behind the first one and its end.
  have hfirst : ∀ {line behind : List Char}, Unbroken line →
      (behind = [] ∨ ∃ c rest, behind = c :: rest ∧ endsLine c = true) →
      IsLine 0 [] line behind :=
    fun hline hstop => ⟨rfl, .inl rfl, (fun h => nomatch h), hline, hstop⟩
  induction h generalizing n with
  | nil => cases hn
  | @last line hline =>
    obtain rfl : n = 0 := Nat.lt_one_iff.mp hn
    exact ⟨[], [], (List.append_nil line).symm, hfirst hline (.inl rfl)⟩
  | @pair line rest ls hline hrest ih =>
    cases n with
    | zero => exact ⟨[], _, rfl, hfirst hline (.inr ⟨'\r', _, rfl, hreturn⟩)⟩
    | succ n =>
      obtain ⟨before, behind, hcs, hisline⟩ := ih (Nat.lt_of_succ_lt_succ hn)
      refine ⟨line ++ '\r' :: '\n' :: before, behind, ?_, ?_⟩
      · rw [List.append_assoc]
        exact congrArg (fun rest => line ++ '\r' :: '\n' :: rest) hcs
      · rw [List.append_cons]
        refine hisline.behind_end hfeed ?_ fun _ h => absurd h (by decide)
        rw [← List.append_cons, lineEnds_append_of_unbroken hline, lineEnds, hisline.ends]
  | @single line rest ls c hline hends hpair hrest ih =>
    cases n with
    | zero => exact ⟨[], _, rfl, hfirst hline (.inr ⟨c, _, rfl, hends⟩)⟩
    | succ n =>
      obtain ⟨before, behind, hcs, hisline⟩ := ih (Nat.lt_of_succ_lt_succ hn)
      refine ⟨line ++ c :: before, behind, ?_, ?_⟩
      · rw [List.append_assoc]
        exact congrArg (fun rest => line ++ c :: rest) hcs
      · refine hisline.behind_end hends ?_ fun hbefore hc => ?_
        · rw [lineEnds_append_of_unbroken hline, lineEnds_single hends, hisline.ends]
          intro hc hhead
          refine hpair hc ?_
          rw [hcs, List.head?_append, hhead, Option.some_or]
        · rw [hbefore, List.nil_append] at hcs
          rw [hcs] at hpair
          exact hpair hc

/-- Every line of a text stands in it. -/
theorem exists_isLine {s : String} {n : Nat} (hn : n < (lines s).length) : ∃ before behind,
    s.toList = before ++ ((lines s)[n].toList ++ behind) ∧
      IsLine n before (lines s)[n].toList behind := by
  obtain ⟨ls, hls, hlines⟩ := exists_separated_linesFrom [] false s.toList
    (fun c hc => nomatch hc) fun _ => rfl
  have heq : lines s = ls.map fun l => String.ofList l.1 := by
    unfold lines
    rw [hlines, List.map_map]
    rfl
  have hn' : n < ls.length := by simpa [heq] using hn
  have hget : (lines s)[n].toList = ls[n].1 := by simp [heq]
  rw [hget]
  exact hls.exists_isLine hn'

/-! ### Line feeds -/

/-- Nothing ends no line. -/
theorem feedsOnly_nil : FeedsOnly [] := by
  rintro (_ | _) c back h
  · cases h
  · cases h

/-- A text ends its lines with line feeds if its first character does, where it ends one, and the
rest does. -/
theorem feedsOnly_cons_iff {c : Char} {cs : List Char} : FeedsOnly (c :: cs) ↔
    (endsLine c = true → c = '\n' ∨ c = '\r' ∧ cs.head? = some '\n') ∧ FeedsOnly cs := by
  constructor
  · intro h
    refine ⟨h [] c cs rfl, fun front d back hcs hd => ?_⟩
    exact h (c :: front) d back (by rw [hcs]; rfl) hd
  · rintro ⟨hc, hcs⟩ front d back hsplit hd
    cases front with
    | nil =>
      obtain ⟨rfl, rfl⟩ := List.cons.inj hsplit
      exact hc hd
    | cons b front => exact hcs front d back (List.cons.inj hsplit).2 hd

/-- There are no more line feeds than line ends, and as many just when there are no other line
ends. -/
theorem count_feeds (cs : List Char) : cs.count '\n' ≤ lineEnds cs ∧
    (cs.count '\n' = lineEnds cs ↔ FeedsOnly cs) := by
  have hfeed : endsLine '\n' = true := by decide
  have hreturn : '\r' ≠ '\n' := by decide
  fun_induction lineEnds cs with
  | case1 => exact ⟨Nat.le_refl _, iff_of_true rfl feedsOnly_nil⟩
  | case2 cs ih =>
    obtain ⟨hle, hiff⟩ := ih
    rw [List.count_cons_of_ne hreturn, List.count_cons_self, feedsOnly_cons_iff,
      feedsOnly_cons_iff, ← hiff]
    exact ⟨Nat.succ_le_succ hle, by simp⟩
  | case3 c cs hpair ih =>
    obtain ⟨hle, hiff⟩ := ih
    rw [feedsOnly_cons_iff, ← hiff]
    by_cases hc : c = '\n'
    · subst hc
      rw [List.count_cons_self, hfeed, if_pos rfl]
      constructor
      · omega
      · constructor
        · exact fun h => ⟨fun _ => .inl rfl, by omega⟩
        · rintro ⟨-, h⟩
          omega
    · rw [List.count_cons_of_ne hc]
      cases hends : endsLine c with
      | false =>
        rw [if_neg (by simp), Nat.zero_add]
        exact ⟨hle, fun h => ⟨(fun h => nomatch h), h⟩, And.right⟩
      | true =>
        -- A carriage return without line feed is a line end too many, like any other.
        rw [if_pos rfl]
        refine ⟨by omega, fun h => by omega, fun ⟨h, _⟩ => ?_⟩
        rcases h rfl with h | ⟨rfl, hhead⟩
        · exact absurd h hc
        · obtain ⟨rest, rfl⟩ := List.head?_eq_some_iff.mp hhead
          exact (hpair rest rfl rfl).elim

namespace IsLine

variable {n : Nat} {before shown behind : List Char}

/-- A line is one in the sense of line feeds just when all line ends in front of it have a line
feed, and its own has one. -/
theorem isFeedLine_iff (h : IsLine n before shown behind) : IsFeedLine n before shown behind ↔
    FeedsOnly before ∧
      (behind = [] ∨ behind.head? = some '\n' ∨ ['\r', '\n'] <+: behind) := by
  have hcount := (count_feeds before).2
  rw [h.ends] at hcount
  constructor
  · exact fun hfeed => ⟨hcount.mp hfeed.feeds, hfeed.stop⟩
  · rintro ⟨honly, hstop⟩
    refine ⟨hcount.mpr honly, h.start.imp_right ?_, fun hmem => ?_, hstop⟩
    · rintro ⟨c, hc, hends⟩
      obtain ⟨front, rfl⟩ := List.getLast?_eq_some_iff.mp hc
      rcases honly front c [] rfl hends with rfl | ⟨-, hnone⟩
      · exact hc
      · cases hnone
    · have hends := h.unbroken _ hmem
      cases hends

/-- In a text whose line ends all have a line feed, every line is one in the sense of line feeds. -/
theorem isFeedLine_of_feedsOnly (h : IsLine n before shown behind)
    (honly : FeedsOnly (before ++ (shown ++ behind))) : IsFeedLine n before shown behind := by
  refine h.isFeedLine_iff.mpr ⟨fun front c back hsplit hends => ?_, h.stop.imp_right ?_⟩
  · subst hsplit
    refine (honly front c (back ++ (shown ++ behind)) (by simp) hends).imp_right ?_
    rintro ⟨rfl, hhead⟩
    refine ⟨rfl, ?_⟩
    cases back with
    | nil => exact absurd hhead (h.whole (by simp))
    | cons d back => exact hhead
  · rintro ⟨c, rest, rfl, hends⟩
    rcases honly (before ++ shown) c rest (by simp) hends with rfl | ⟨rfl, hhead⟩
    · exact .inl rfl
    · obtain ⟨rest, rfl⟩ := List.head?_eq_some_iff.mp hhead
      exact .inr ⟨rest, rfl⟩

end IsLine

/-- There is one piece more than there are separators. -/
theorem length_splitAt (sep : Char) (cs : List Char) :
    (splitAt sep cs).length = cs.count sep + 1 := by
  induction cs with
  | nil => rfl
  | cons c cs ih =>
    by_cases hc : c = sep
    · rw [splitAt, if_pos hc, List.length_cons, ih, hc, List.count_cons_self]
    · rw [splitAt_cons_of_ne hc, List.length_modifyHead, ih, List.count_cons_of_ne hc]

/-- A line in the sense of line feeds is the piece between two of them, a carriage return at its end
aside. -/
theorem IsFeedLine.getElem?_splitAt {n : Nat} {before shown behind : List Char}
    (h : IsFeedLine n before shown behind) :
    (splitAt '\n' (before ++ (shown ++ behind)))[n]? = some shown ∨
      (splitAt '\n' (before ++ (shown ++ behind)))[n]? = some (shown ++ ['\r']) := by
  -- What is in front of the line makes up the pieces before.
  have hbefore : ∀ cs, (splitAt '\n' (before ++ cs))[n]? = (splitAt '\n' cs)[0]? := by
    intro cs
    rcases h.start with rfl | hlast
    · rw [← h.feeds]
      rfl
    · obtain ⟨front, rfl⟩ := List.getLast?_eq_some_iff.mp hlast
      have hn : (splitAt '\n' front).length = n := by
        rw [length_splitAt, ← h.feeds, List.count_append]
        rfl
      rw [List.append_assoc, List.singleton_append, splitAt_append, ← hn,
        List.getElem?_append_right (Nat.le_refl _), Nat.sub_self]
  rw [hbefore]
  rcases h.stop with rfl | hfeed | ⟨rest, rfl⟩
  · rw [List.append_nil, splitAt_of_not_mem h.unbroken]
    exact .inl rfl
  · obtain ⟨rest, rfl⟩ := List.head?_eq_some_iff.mp hfeed
    rw [splitAt_append_cons h.unbroken]
    exact .inl rfl
  · have hreturn : '\n' ∉ shown ++ ['\r'] := by
      simpa using h.unbroken
    have hsplit := splitAt_append_cons hreturn rest
    rw [List.append_assoc] at hsplit
    refine .inr ?_
    show (splitAt '\n' (shown ++ (['\r'] ++ '\n' :: rest)))[0]? = _
    rw [hsplit]
    rfl

end Text

end AttrTemplates
