import AttrTemplates.Proofs.Xml.Level
import AttrTemplates.Proofs.Xml.Preamble
import AttrTemplates.Proofs.Xml.Reader

/-!
# `AttrTemplates.Proofs.Xml.Enclosed`: a text inside an element and the text alone

Content is read up to an end tag or the end of the text. So when an element is put around a text,
the text should be read as it would be alone. `Read.Agrees` is the judgment that this is so of two
readings, one of the enclosed text and one of the text alone: both stop or both have the same
result, and are then at the same place (`Cursor.Enclosed`).

The two come apart only at the end of the text, where there is an end tag for one of them and
nothing for the other. There one of them may stop when the other one goes on, as far as the `Lead`
of the judgment allows:

* the attributes of a start tag may end with the text, and not at a `<`, but the start tag is not
  complete then;
* an element that is still open may be ended by the end tag that was put behind the text. Then
  nothing is left to end the element around it.

A judgment bounds what is left of the text alone, so fuel can be compared with it. There is a lemma
for each reader that follows its definition.
-/

set_option autoImplicit false

namespace AttrTemplates.Xml

namespace Read

/-- The end of the element that is put around a text. -/
def closing : List Char := ['<', '/', 'f', 'r', 'a', 'g', 'm', 'e', 'n', 't', '>']

/-- A setting in which nothing is declared. -/
def undeclared : Setting := { dialect := .namespaced }

end Read

open Read (closing undeclared)

/-- `c` is a place in a text that is enclosed, `d` is the same place in the text alone. -/
structure Cursor.Enclosed (c d : Cursor) : Prop where
  rest : c.rest = d.rest ++ closing
  line : c.position.line = d.position.line
  findings : c.findings.unplaced = d.findings.unplaced

/-- Characters of the text alone are dropped in front of the end tag. -/
theorem Cursor.Enclosed.drop {c d : Cursor} (h : c.Enclosed d) {n : Nat} (hn : n ≤ d.rest.length) :
    c.rest.drop n = d.rest.drop n ++ closing := by
  rw [h.rest, List.drop_append_of_le_length hn]

/-- Characters of the text alone are the same in the enclosed text. -/
theorem Cursor.Enclosed.take {c d : Cursor} (h : c.Enclosed d) {n : Nat} (hn : n ≤ d.rest.length) :
    c.rest.take n = d.rest.take n := by
  rw [h.rest, List.take_append_of_le_length hn]

/-- The line that a text ends on depends on the line it begins on, not on the column. -/
theorem Position.line_afterAll {p q : Position} (h : p.line = q.line) (cs : List Char) :
    (p.afterAll cs).line = (q.afterAll cs).line := by
  induction cs generalizing p q with
  | nil => exact h
  | cons c cs ih =>
    refine ih ?_
    unfold Position.after
    split
    · exact congrArg (· + 1) h
    · exact h

/-- The same where bytes are counted, since lines end at the same places. -/
theorem Position.line_afterBytes {p q : Position} (h : p.line = q.line) (cs : List Char) :
    (p.afterBytes cs).line = (q.afterBytes cs).line := by
  induction cs generalizing p q with
  | nil => exact h
  | cons c cs ih =>
    refine ih (p := if c = '\n' then _ else _) (q := if c = '\n' then _ else _) ?_
    split
    · exact congrArg (· + 1) h
    · exact h

namespace Read

/-! ### Texts in front of the end tag -/

/-- Whether a text that is looked for can neither begin in the end tag nor reach into it. -/
def isApart (s : String) : Bool := !s.toList.tail.contains '<' && !s.toList.isPrefixOf closing

/-- A text without `<` is looked for as if there were no end tag, however much of it is left. -/
theorem isPrefixOf_closing {s cs : List Char} (hs : '<' ∉ s) :
    s.isPrefixOf (cs ++ closing) = s.isPrefixOf cs := by
  induction cs generalizing s with
  | nil =>
    cases s with
    | nil => rfl
    | cons x s =>
      have hx : (x == '<') = false := beq_false_of_ne (List.ne_of_not_mem_cons hs).symm
      show (x == '<' && _) = false
      rw [hx]
      rfl
  | cons c cs ih =>
    cases s with
    | nil => rfl
    | cons x s =>
      show (x == c && s.isPrefixOf (cs ++ closing)) = (x == c && s.isPrefixOf cs)
      rw [ih (List.not_mem_of_not_mem_cons hs)]

/-- At the end of the text the end tag is not in the way, unless a part of it is looked for. -/
theorem isPrefixOf_closing_of_tail {s cs : List Char} (hs : '<' ∉ s.tail)
    (h : cs = [] → s.isPrefixOf closing = s.isPrefixOf []) :
    s.isPrefixOf (cs ++ closing) = s.isPrefixOf cs := by
  cases cs with
  | nil => exact h rfl
  | cons c cs =>
    cases s with
    | nil => rfl
    | cons x s =>
      rw [List.tail_cons] at hs
      show (x == c && s.isPrefixOf (cs ++ closing)) = (x == c && s.isPrefixOf cs)
      rw [isPrefixOf_closing hs]

/-- A text that is apart from the end tag is found in the enclosed text if it is in the text alone.
-/
theorem isPrefixOf_of_isApart {s : String} (hs : isApart s = true) (cs : List Char) :
    s.toList.isPrefixOf (cs ++ closing) = s.toList.isPrefixOf cs := by
  unfold isApart at hs
  simp only [Bool.and_eq_true, Bool.not_eq_true', List.contains_eq_mem, decide_eq_false_iff_not]
    at hs
  refine isPrefixOf_closing_of_tail hs.1 fun _ => ?_
  rw [hs.2]
  cases h : s.toList with
  | nil => rw [h] at hs; exact nomatch hs.2
  | cons => rfl

/-- A run of characters of which `<` is none ends in front of the end tag. -/
theorem span_closing {p : Char → Bool} (hp : p '<' = false) (cs : List Char) :
    (cs ++ closing).span p = (cs.takeWhile p, cs.dropWhile p ++ closing) := by
  have hp' : ¬ p '<' = true := by rw [hp]; exact Bool.false_ne_true
  rw [List.span_eq_takeWhile_dropWhile]
  induction cs with
  | nil =>
    exact Prod.ext (List.takeWhile_cons_of_neg hp') (List.dropWhile_cons_of_neg hp')
  | cons c cs ih =>
    obtain ⟨htake, hdrop⟩ := Prod.mk.inj ih
    rw [List.cons_append, List.takeWhile_cons, List.dropWhile_cons, List.takeWhile_cons,
      List.dropWhile_cons, htake, hdrop]
    split
    · rfl
    · rfl

/-! ### Readings that agree -/

/-- Which of two readers may go on at the end of its text where the other one stops. -/
inductive Lead
  | none
  | alone
  | enclosed

section

variable {α β : Type} {lead : Lead} {k l : Nat} {c d : Cursor}

/-- The outcome of reading an enclosed text is that of reading the text alone, of which at most `k`
characters are left. -/
inductive SameOutcome (k : Nat) :
    Lead → Except Position (α × Cursor) → Except Position (α × Cursor) → Prop
  | succeeds {lead : Lead} {a : α} {c d : Cursor} : c.Enclosed d → d.rest.length ≤ k →
      SameOutcome k lead (.ok (a, c)) (.ok (a, d))
  | fails {lead : Lead} (p q : Position) : SameOutcome k lead (.error p) (.error q)
  | alone {p : Position} {a : α} {d : Cursor} : d.rest = [] →
      SameOutcome k .alone (.error p) (.ok (a, d))
  | enclosed {q : Position} {a : α} {c : Cursor} : c.rest = [] →
      SameOutcome k .enclosed (.ok (a, c)) (.error q)

/-- From `c` in an enclosed text, and from `d` in the text alone, two readers agree. -/
def Agrees (c d : Cursor) (k : Nat) (lead : Lead) (r r' : Read α) : Prop :=
  SameOutcome k lead (r c) (r' d)

/-- The bound on what is left may be larger. -/
theorem Agrees.mono {r r' : Read α} (h : Agrees c d l lead r r') (hle : l ≤ k) :
    Agrees c d k lead r r' := by
  unfold Agrees at *
  generalize r c = x at *
  generalize r' d = y at *
  cases h with
  | succeeds hc hl => exact .succeeds hc (Nat.le_trans hl hle)
  | fails p q => exact .fails p q
  | alone hd => exact .alone hd
  | enclosed hc => exact .enclosed hc

/-- Readers that agree in full agree whichever of them may lead. -/
theorem Agrees.of_none {r r' : Read α} (h : Agrees c d k .none r r') : Agrees c d k lead r r' := by
  unfold Agrees at *
  generalize r c = x at *
  generalize r' d = y at *
  cases h with
  | succeeds hc hl => exact .succeeds hc hl
  | fails p q => exact .fails p q

/-- A reader that stops at what comes next in the enclosed text has the outcome of any that stops.
-/
theorem SameOutcome.of_stops {r : Read α} {cs : List Char} (hr : Stops r cs) (hc : c.rest = cs)
    (q : Position) : SameOutcome k lead (r c) (.error q) := by
  obtain ⟨p, hp⟩ := hr c hc
  rw [hp]
  exact .fails p q

/-- The same with the reader of the text alone. -/
theorem SameOutcome.of_stops' {r : Read α} {cs : List Char} (hr : Stops r cs) (hd : d.rest = cs)
    (p : Position) : SameOutcome k lead (.error p) (r d) := by
  obtain ⟨q, hq⟩ := hr d hd
  rw [hq]
  exact .fails p q

/-! ### Sequences -/

/-- Nothing is read, so both stay where they are. -/
theorem agrees_pure (h : c.Enclosed d) (hk : d.rest.length ≤ k) (a : α) :
    Agrees c d k lead (pure a) (pure a) := .succeeds h hk

/-- Both stop, each at its own place. -/
theorem agrees_stop : Agrees c d k lead (stop : Read α) stop := .fails _ _

/-- A sequence at a cursor is its second part at the cursor that the first one leaves. -/
theorem bind_eq (r : Read α) (f : α → Read β) (c : Cursor) :
    (r >>= f) c = r c >>= fun x => f x.1 x.2 := rfl

/-- Two parts that agree make two sequences that do, with the bound of the first for the second. -/
theorem Agrees.bind {r r' : Read α} {f f' : α → Read β} (hr : Agrees c d l .none r r')
    (hf : ∀ a c' d', r' d = .ok (a, d') → c'.Enclosed d' → d'.rest.length ≤ l →
      Agrees c' d' k lead (f a) (f' a)) : Agrees c d k lead (r >>= f) (r' >>= f') := by
  unfold Agrees at *
  rw [bind_eq, bind_eq]
  generalize r c = x at hr
  generalize hy : r' d = y at hr hf
  cases hr with
  | succeeds hc hl => exact hf _ _ _ rfl hc hl
  | fails p q => exact .fails p q

/-- If the first reader may go on in the text alone, at its end, it depends on the second one what
comes of it. -/
theorem Agrees.bind_alone {r r' : Read α} {f f' : α → Read β} (hr : Agrees c d l .alone r r')
    (hf : ∀ a c' d', r' d = .ok (a, d') → c'.Enclosed d' → d'.rest.length ≤ l →
      Agrees c' d' k lead (f a) (f' a))
    (hend : ∀ a p d', d'.rest = [] → SameOutcome k lead (.error p) (f' a d')) :
    Agrees c d k lead (r >>= f) (r' >>= f') := by
  unfold Agrees at *
  rw [bind_eq, bind_eq]
  generalize r c = x at hr
  generalize hy : r' d = y at hr hf
  cases hr with
  | succeeds hc hl => exact hf _ _ _ rfl hc hl
  | fails p q => exact .fails p q
  | alone hd => exact hend _ _ _ hd

/-- Where the enclosed text may lead in the first part, what follows has to stop at its end. -/
theorem Agrees.bind_enclosed {r r' : Read α} {f f' : α → Read β}
    (hr : Agrees c d l .enclosed r r')
    (hf : ∀ a c' d', r' d = .ok (a, d') → c'.Enclosed d' → d'.rest.length ≤ l →
      Agrees c' d' k lead (f a) (f' a))
    (hend : ∀ a c' q, c'.rest = [] → SameOutcome k lead (f a c') (.error q)) :
    Agrees c d k lead (r >>= f) (r' >>= f') := by
  unfold Agrees at *
  rw [bind_eq, bind_eq]
  generalize r c = x at hr
  generalize hy : r' d = y at hr hf
  cases hr with
  | succeeds hc hl => exact hf _ _ _ rfl hc hl
  | fails p q => exact .fails p q
  | enclosed hc => exact hend _ _ _ hc

/-- If the first reader may go on in the text alone, so may all that agrees anywhere, because it
stays at the end. -/
theorem Agrees.bind_still {r r' : Read α} {f f' : α → Read β} (hr : Agrees c d k .alone r r')
    (hf : ∀ a {c' d' l}, c'.Enclosed d' → d'.rest.length ≤ l → Agrees c' d' l .none (f a) (f' a)) :
    Agrees c d k .alone (r >>= f) (r' >>= f') := by
  refine hr.bind_alone (fun a c' d' _ hc hk => (hf a hc hk).of_none) fun a p d' hd => ?_
  have hstill : Agrees { d' with rest := d'.rest ++ closing } d' 0 .none (f a) (f' a) :=
    hf a ⟨rfl, rfl, rfl⟩ (Nat.le_zero.mpr (List.length_eq_zero_iff.mpr hd))
  unfold Agrees at hstill
  generalize f a _ = x at hstill
  generalize f' a d' = y at hstill
  cases hstill with
  | succeeds _ hl => exact .alone (List.length_eq_zero_iff.mp (Nat.le_zero.mp hl))
  | fails _ q => exact .fails _ q

/-- A condition that does not speak of the cursor is the same for both. -/
theorem agrees_ite {p : Prop} [Decidable p] {r r' s s' : Read α}
    (hr : p → Agrees c d k lead r r') (hs : ¬ p → Agrees c d k lead s s') :
    Agrees c d k lead (if p then r else s) (if p then r' else s') := by
  split
  · exact hr ‹_›
  · exact hs ‹_›

/-- A check that stops does so in both cases. -/
theorem agrees_ite_stop {p : Prop} [Decidable p] {f f' : Unit → Read α}
    (hf : ¬ p → Agrees c d k lead (f ()) (f' ())) :
    Agrees c d k lead (if p then (do let x ← stop; f x) else f ())
      (if p then (do let x ← stop; f' x) else f' ()) :=
  agrees_ite (fun _ => .fails _ _) hf

/-- A step may be left out in both cases. -/
theorem agrees_ite_step {p : Prop} [Decidable p] {r : Read Unit} {f f' : Unit → Read α}
    (h : c.Enclosed d) (hk : d.rest.length ≤ l) (hr : Agrees c d l .none r r)
    (hf : ∀ c' d', c'.Enclosed d' → d'.rest.length ≤ l → Agrees c' d' k lead (f ()) (f' ())) :
    Agrees c d k lead (if p then (do let x ← r; f x) else f ())
      (if p then (do let x ← r; f' x) else f' ()) :=
  agrees_ite (fun _ => hr.bind fun _ c' d' _ => hf c' d') fun _ => hf c d h hk

/-! ### Steps -/

/-- Findings are kept level by what does not use the position of an objection. -/
theorem agrees_remember {f : Findings → Findings} (h : c.Enclosed d) (hk : d.rest.length ≤ k)
    (hf : ∀ g g', g.unplaced = g'.unplaced → (f g).unplaced = (f g').unplaced) :
    Agrees c d k lead (remember f) (remember f) :=
  .succeeds ⟨h.rest, h.line, hf _ _ h.findings⟩ hk

/-- A thing noticed is noticed by both. -/
theorem agrees_notice (h : c.Enclosed d) (hk : d.rest.length ≤ k) :
    Agrees c d k lead notice notice := by
  refine agrees_remember h hk fun g g' hg => ?_
  obtain ⟨hobjection, -, hids, hchecked⟩ := Findings.mk.inj hg
  exact Findings.mk.injEq .. ▸ ⟨hobjection, rfl, hids, hchecked⟩

/-- An objection is noted by both, each at its own place. -/
theorem agrees_object (h : c.Enclosed d) (hk : d.rest.length ≤ k) :
    Agrees c d k lead object object := by
  obtain ⟨-, -, hids, hchecked⟩ := Findings.mk.inj h.findings
  refine .succeeds ⟨h.rest, h.line, ?_⟩ hk
  exact Findings.mk.injEq .. ▸ ⟨rfl, rfl, hids, hchecked⟩

/-- Identifiers count as far as they have been found, wherever that was. -/
theorem agrees_findings {f f' : Findings → Read α} (h : c.Enclosed d)
    (hf : c.findings.ids = d.findings.ids → Agrees c d k lead (f c.findings) (f' d.findings)) :
    Agrees c d k lead (findings >>= f) (findings >>= f') :=
  hf (Findings.ids_eq h.findings)

/-- The lines are the same, since the end tag comes behind all of the text. -/
theorem agrees_line (h : c.Enclosed d) (hk : d.rest.length ≤ k) :
    Agrees c d k lead line line := by
  show SameOutcome k lead (.ok (c.position.line, c)) (.ok (d.position.line, d))
  rw [h.line]
  exact .succeeds h hk

/-- The next character is the same, but at the end of the text. -/
theorem agrees_peek {f f' : Option Char → Read α} (h : c.Enclosed d)
    (hend : d.rest = [] → Agrees c d k lead (f (some '<')) (f' none))
    (hnext : ∀ x cs, d.rest = x :: cs → Agrees c d k lead (f (some x)) (f' (some x))) :
    Agrees c d k lead (peek >>= f) (peek >>= f') := by
  show SameOutcome k lead (f c.rest.head? c) (f' d.rest.head? d)
  rw [h.rest]
  cases hd : d.rest with
  | nil => exact hend hd
  | cons x cs => exact hnext x cs hd

/-- Whether the next character is a certain one is the same, unless it is the first of a tag. -/
theorem agrees_peek_eq {x : Char} {r r' s s' : Read α} (h : c.Enclosed d) (hx : x ≠ '<')
    (hr : ∀ cs, d.rest = x :: cs → Agrees c d k lead r r') (hs : Agrees c d k lead s s') :
    Agrees c d k lead (do if (← peek) == some x then r else s)
      (do if (← peek) == some x then r' else s') := by
  refine agrees_peek h (fun _ => ?_) fun y cs hd => ?_
  · rw [if_neg (by simpa using hx.symm), if_neg (by simp)]
    exact hs
  · by_cases hy : y = x
    · subst hy
      rw [if_pos (by simp), if_pos (by simp)]
      exact hr cs hd
    · rw [if_neg (by simpa using hy), if_neg (by simpa using hy)]
      exact hs

/-- What is still to come is longer by the end tag. -/
theorem agrees_rest {f f' : List Char → Read α} (h : c.Enclosed d)
    (hf : d.rest.length ≤ c.rest.length → Agrees c d k lead (f c.rest) (f' d.rest)) :
    Agrees c d k lead (rest >>= f) (rest >>= f') := by
  refine hf ?_
  rw [h.rest, List.length_append]
  exact Nat.le_add_right _ _

/-- A text that is found by both or by neither decides how both go on. -/
theorem agrees_looked_of_eq {s : String} {f f' : Bool → Read α}
    (hs : s.toList.isPrefixOf c.rest = s.toList.isPrefixOf d.rest)
    (hf : ∀ b, s.toList.isPrefixOf d.rest = b → Agrees c d k lead (f b) (f' b)) :
    Agrees c d k lead (looksAt s >>= f) (looksAt s >>= f') := by
  show SameOutcome k lead (f (s.toList.isPrefixOf c.rest) c) (f' (s.toList.isPrefixOf d.rest) d)
  rw [hs]
  exact hf _ rfl

/-- A text that has nothing in common with the end tag is found or not found in both cases. -/
theorem agrees_looked {s : String} {f f' : Bool → Read α} (h : c.Enclosed d)
    (hs : isApart s = true)
    (hf : ∀ b, (b = true → s.toList.length ≤ d.rest.length) → Agrees c d k lead (f b) (f' b)) :
    Agrees c d k lead (looksAt s >>= f) (looksAt s >>= f') := by
  refine agrees_looked_of_eq ?_ fun b hb => hf b fun htrue => ?_
  · rw [h.rest, isPrefixOf_of_isApart hs]
  · exact (List.isPrefixOf_iff_prefix.mp (hb.trans htrue)).length_le

/-- A text apart from the end tag is looked for, and where it is found enough is left to pass it. -/
theorem agrees_looksAt {s : String} {r r' t t' : Read α} (h : c.Enclosed d) (hs : isApart s = true)
    (hr : s.toList.length ≤ d.rest.length → Agrees c d k lead r r')
    (ht : Agrees c d k lead t t') :
    Agrees c d k lead (do if ← looksAt s then r else t) (do if ← looksAt s then r' else t') :=
  agrees_looked h hs fun _ hlength => agrees_ite (fun htrue => hr (hlength htrue)) fun _ => ht

/-- Characters that are there in the text alone are passed by both. -/
theorem agrees_skip (h : c.Enclosed d) {n : Nat} (hn : n ≤ d.rest.length)
    (hk : d.rest.length ≤ k + n) : Agrees c d k lead (skip n) (skip n) := by
  refine .succeeds ⟨h.drop hn, ?_, h.findings⟩ ?_
  · show (c.position.afterAll (c.rest.take n)).line = (d.position.afterAll (d.rest.take n)).line
    rw [h.take hn]
    exact Position.line_afterAll h.line _
  · show (d.rest.drop n).length ≤ k
    rw [List.length_drop]
    omega

/-- One character is passed, and the reading goes on with less in front of it. -/
theorem agrees_skip_next {x : Char} {cs : List Char} {f f' : Unit → Read α} (h : c.Enclosed d)
    (hd : d.rest = x :: cs) (hk : d.rest.length ≤ k)
    (hf : ∀ c' d', c'.Enclosed d' → d'.rest.length + 1 ≤ k →
      Agrees c' d' k lead (f ()) (f' ())) :
    Agrees c d k lead (skip 1 >>= f) (skip 1 >>= f') := by
  have hlength : d.rest.length = cs.length + 1 := congrArg List.length hd
  exact (agrees_skip (k := k - 1) h (by omega) (by omega)).bind fun _ c' d' _ h hl =>
    hf c' d' h (by omega)

/-- A text ends at a mark, or goes on. -/
theorem agrees_ends {s : String} {n : Nat} {a : α} {r r' : Read α} (h : c.Enclosed d)
    (hs : isApart s = true) (hn : n ≤ s.toList.length) (hk : d.rest.length ≤ k)
    (hr : Agrees c d k lead r r') :
    Agrees c d k lead (do if ← looksAt s then (do skip n; pure a) else r)
      (do if ← looksAt s then (do skip n; pure a) else r') :=
  agrees_looksAt h hs (fun hlength => (agrees_skip h (Nat.le_trans hn hlength)
    (Nat.le_add_right_of_le hk)).bind fun _ _ _ _ h hk => agrees_pure h hk a) hr

/-- A reader gets enough fuel for all that is to come. -/
theorem agrees_fuelled {r : Nat → Read α} (f : α → β) (h : c.Enclosed d) (hk : d.rest.length ≤ k)
    (hr : ∀ {l m n}, d.rest.length ≤ l → l < m → l < n → Agrees c d l .none (r m) (r n)) :
    Agrees c d k lead (do let a ← r ((← rest).length + 1); pure (f a))
      (do let a ← r ((← rest).length + 1); pure (f a)) := by
  refine agrees_rest h fun hmore => ?_
  exact ((hr (Nat.le_refl _) (Nat.lt_succ_of_le hmore) (Nat.lt_succ_self _)).mono hk).bind
    fun a _ _ _ h hk => agrees_pure h hk (f a)

/-- Bytes are passed likewise. -/
theorem agrees_skipBytes (h : c.Enclosed d) {n : Nat} (hn : n ≤ d.rest.length)
    (hk : d.rest.length ≤ k) : Agrees c d k lead (skipBytes n) (skipBytes n) := by
  refine .succeeds ⟨h.drop hn, ?_, h.findings⟩ ?_
  · show (c.position.afterBytes (c.rest.take n)).line
      = (d.position.afterBytes (d.rest.take n)).line
    rw [h.take hn]
    exact Position.line_afterBytes h.line _
  · show (d.rest.drop n).length ≤ k
    rw [List.length_drop]
    omega

/-- A run without `<` ends at the end of the text alone or before it. -/
theorem agrees_takeWhile (h : c.Enclosed d) (hk : d.rest.length ≤ k) {p : Char → Bool}
    (hp : p '<' = false) : Agrees c d k lead (takeWhile p) (takeWhile p) := by
  unfold Agrees takeWhile
  rw [h.rest, span_closing hp, List.span_eq_takeWhile_dropWhile]
  refine .succeeds ⟨rfl, Position.line_afterAll h.line _, h.findings⟩ ?_
  exact Nat.le_trans (List.dropWhile_suffix p).length_le hk

/-- What is behind the longest run of characters. -/
theorem takeWhile_bind (p : Char → Bool) (f : List Char → Read α) (c : Cursor) :
    (takeWhile p >>= f) c = f (c.rest.takeWhile p) { c with
      rest := c.rest.dropWhile p
      position := c.position.afterAll (c.rest.takeWhile p) } := by
  rw [bind_eq, takeWhile, List.span_eq_takeWhile_dropWhile]
  rfl

/-- A run that goes through the end tag comes to the end in both cases, where it has to be a fault,
or ends before. -/
theorem agrees_takeWhile_through {f f' : List Char → Read α} (h : c.Enclosed d)
    (hk : d.rest.length ≤ l) {p : Char → Bool} (hp : closing.all p = true)
    (hf : ∀ cs c' d', c'.Enclosed d' → d'.rest.length ≤ l → Agrees c' d' k lead (f cs) (f' cs))
    (hstop : ∀ cs, Stops (f cs) []) (hstop' : ∀ cs, Stops (f' cs) []) :
    Agrees c d k lead (takeWhile p >>= f) (takeWhile p >>= f') := by
  unfold Agrees
  rw [takeWhile_bind, takeWhile_bind, h.rest, List.dropWhile_append, List.takeWhile_append]
  -- Whether the run goes to the end of the text. If it does, the other one goes through the end
  -- tag.
  by_cases hend : d.rest.dropWhile p = []
  · obtain ⟨q, hq⟩ := hstop' (d.rest.takeWhile p)
      { d with rest := [], position := d.position.afterAll (d.rest.takeWhile p) } rfl
    have hclosing : closing.dropWhile p = [] :=
      List.dropWhile_eq_nil_iff.mpr (List.all_eq_true.mp hp)
    rw [hend, List.isEmpty_nil, if_pos rfl, hclosing, hq]
    exact .of_stops (hstop _) rfl q
  · have hlength : (d.rest.takeWhile p).length ≠ d.rest.length := by
      intro hlength
      have hall := congrArg List.length (List.takeWhile_append_dropWhile (p := p) (l := d.rest))
      rw [List.length_append, hlength, Nat.add_eq_left, List.length_eq_zero_iff] at hall
      exact hend hall
    rw [if_neg hlength, if_neg (by rwa [List.isEmpty_iff])]
    refine hf _ _ _ ⟨rfl, Position.line_afterAll h.line _, h.findings⟩ ?_
    exact Nat.le_trans (List.dropWhile_suffix p).length_le hk

/-- A text apart from the end tag is expected by both. -/
theorem agrees_expect {s : String} (h : c.Enclosed d) (hs : isApart s = true)
    (hk : d.rest.length ≤ k + s.length) : Agrees c d k lead (expect s) (expect s) := by
  unfold expect
  exact agrees_looksAt h hs (fun hlength => agrees_skip h hlength hk) agrees_stop

/-- Blanks end at the end of the text at the latest. -/
theorem agrees_blanks (h : c.Enclosed d) (hk : d.rest.length ≤ k) :
    Agrees c d k lead blanks blanks := by
  unfold blanks
  exact (agrees_takeWhile h hk rfl).bind fun _ _ _ _ h hk => agrees_pure h hk _

/-- Blanks that must be there are there for both or for neither. -/
theorem agrees_spaced (h : c.Enclosed d) (hk : d.rest.length ≤ k) :
    Agrees c d k lead spaced spaced := by
  unfold spaced
  exact (agrees_blanks h hk).bind fun _ _ _ _ h hk => agrees_ite (fun _ => agrees_stop) fun _ =>
    agrees_pure h hk ()

/-! ### Names, references and values -/

/-- The end of the text is not the beginning of a name, and neither is `<`. -/
theorem agrees_name? (h : c.Enclosed d) (hk : d.rest.length ≤ k) :
    Agrees c d k lead name? name? := by
  unfold name?
  refine agrees_peek h (fun _ => ?_) fun x cs _ => agrees_ite (fun _ => ?_) fun _ => ?_
  · -- No name begins with the `<` of the end tag.
    dsimp only
    rw [if_neg (by decide)]
    exact agrees_pure h hk none
  · exact (agrees_takeWhile h hk (by decide)).bind fun _ _ _ _ h hk => agrees_pure h hk _
  · exact agrees_pure h hk none

/-- A name that must be there is there for both or for neither. -/
theorem agrees_someName (h : c.Enclosed d) (hk : d.rest.length ≤ k) :
    Agrees c d k lead someName someName := by
  unfold someName
  refine (agrees_name? h hk).bind fun n? _ _ _ h hk => ?_
  split
  · exact agrees_pure h hk _
  · exact agrees_stop

/-- A name is taken apart into prefix and local part without reading on. -/
theorem agrees_written? (dialect : Dialect) (h : c.Enclosed d) (hk : d.rest.length ≤ k) :
    Agrees c d k lead (written? dialect) (written? dialect) := by
  unfold written?
  refine (agrees_name? h hk).bind fun n? _ _ _ h hk => ?_
  split
  · exact agrees_pure h hk none
  · refine agrees_ite (fun _ => agrees_pure h hk _) fun _ => ?_
    split
    · exact agrees_pure h hk _
    · split
      · exact agrees_pure h hk _
      · exact (agrees_object h hk).bind fun _ _ _ _ h hk => agrees_pure h hk _

/-- The digits of a reference end before a `<`, and the semicolon is expected by both. -/
theorem agrees_characterReference (h : c.Enclosed d) (hk : d.rest.length ≤ k) :
    Agrees c d k lead characterReference characterReference := by
  unfold characterReference
  refine Agrees.bind (l := k) (agrees_peek_eq h (by decide) (fun cs hd => ?_) ?_)
    fun base c' d' hbase h hk => ?_
  · exact (agrees_skip h (by simp [hd]) (Nat.le_add_right_of_le hk)).bind fun _ _ _ _ h hk =>
      agrees_pure h hk 16
  · exact agrees_pure h hk 10
  have hdigit : Number.isDigitOf base '<' = false :=
    (show Yields (fun base => Number.isDigitOf base '<' = false) _ from yields_bind fun _ =>
      yields_ite (yields_bind fun _ => yields_pure (by decide)) (yields_pure (by decide))) hbase
  refine (agrees_takeWhile h hk hdigit).bind fun digits _ _ _ h hk => ?_
  refine agrees_peek h (fun _ => agrees_stop) fun x cs hd => agrees_ite_stop fun _ => ?_
  refine (agrees_skip h (by simp [hd]) (Nat.le_add_right_of_le hk)).bind fun _ _ _ _ h hk => ?_
  exact agrees_ite (fun _ => agrees_pure h hk _) fun _ => agrees_stop

/-- A name and a semicolon are read by both. -/
theorem agrees_entityName (h : c.Enclosed d) (hk : d.rest.length ≤ k) :
    Agrees c d k lead entityName entityName := by
  unfold entityName
  exact (agrees_someName h hk).bind fun _ _ _ _ h hk =>
    (agrees_expect h (by decide) (Nat.le_add_right_of_le hk)).bind fun _ _ _ _ h hk =>
      agrees_pure h hk _

/-- By induction on the fuel of one, with more of it than characters are left on both sides: no
value ends at the end of the text, so neither reader can lead. -/
theorem agrees_attributeValueFrom {quote : Char} (hquote : quote ≠ '<') (read : List ValuePart)
    {m n : Nat} (h : c.Enclosed d) (hk : d.rest.length ≤ k) (hm : k < m) (hn : k < n) :
    Agrees c d k lead (attributeValueFrom undeclared quote read m)
      (attributeValueFrom undeclared quote read n) := by
  induction m generalizing n read k c d with
  | zero => omega
  | succ m ih =>
    obtain ⟨n, rfl⟩ := Nat.exists_eq_add_one_of_ne_zero (Nat.ne_zero_of_lt hn)
    unfold attributeValueFrom
    refine (agrees_takeWhile h hk (by simp)).bind fun plain c d _ h hk => ?_
    refine agrees_peek h (fun _ => ?_) fun x cs hd => ?_
    · -- At the `<` of the end tag the value is not complete either.
      show Agrees c d k lead (if '<' = quote then _ else stop) stop
      rw [if_neg hquote.symm]
      exact agrees_stop
    have hlength : d.rest.length = cs.length + 1 := congrArg List.length hd
    -- One character less is left than there was fuel for.
    have hrest (read : List ValuePart) {c d : Cursor} (h : c.Enclosed d)
        (hl : d.rest.length ≤ k - 1) :
        Agrees c d k lead (attributeValueFrom undeclared quote read m)
          (attributeValueFrom undeclared quote read n) :=
      (ih read h hl (by omega) (by omega)).mono (Nat.sub_le k 1)
    split
    · refine agrees_skip_next h hd hk fun c d h hl => ?_
      have hk : d.rest.length ≤ k - 1 := Nat.le_sub_one_of_lt hl
      refine agrees_peek_eq h (by decide) (fun cs hd => ?_) ?_
      · refine (agrees_skip h (by simp [hd]) (Nat.le_add_right_of_le hk)).bind fun _ _ _ _ h hk => ?_
        exact (agrees_characterReference h hk).bind fun _ _ _ _ h hk => hrest _ h hk
      · refine (agrees_entityName h hk).bind fun name _ _ _ h hk => ?_
        rw [show undeclared.entity? name = none from rfl]
        cases predefined? name with
        | some x => exact hrest _ h hk
        | none => exact agrees_ite_stop fun hforgives => absurd rfl hforgives
    · exact agrees_ite (fun _ => agrees_skip_next h hd hk fun _ _ h hl =>
        agrees_pure h (Nat.le_of_lt hl) _) fun _ => agrees_stop
    · exact agrees_stop

/-- A value begins with a quotation mark, which no end tag begins with. -/
theorem agrees_attributeValue (h : c.Enclosed d) (hk : d.rest.length ≤ k) :
    Agrees c d k lead (attributeValue undeclared) (attributeValue undeclared) := by
  unfold attributeValue
  refine agrees_peek h (fun _ => agrees_stop) fun quote cs hd => agrees_ite_stop fun hquote => ?_
  have hquote' : quote ≠ '<' := by
    rintro rfl
    exact hquote rfl
  refine agrees_skip_next h hd hk fun c d h hl => agrees_rest h fun hmore => ?_
  exact (agrees_attributeValueFrom hquote' [] h (Nat.le_refl _) (Nat.lt_succ_of_le hmore)
    (Nat.lt_succ_self _)).mono (Nat.le_of_lt hl)

/-! ### Texts -/

/-- A comment is not ended by the end tag, so both stop where its own end is missing. -/
theorem agrees_commentFrom (wide : Bool) (read : List Char) {m n : Nat} (h : c.Enclosed d)
    (hk : d.rest.length ≤ k) (hm : k < m) (hn : k < n) :
    Agrees c d k lead (commentFrom wide read m) (commentFrom wide read n) := by
  induction m generalizing n wide read k c d with
  | zero => omega
  | succ m ih =>
    obtain ⟨n, rfl⟩ := Nat.exists_eq_add_one_of_ne_zero (Nat.ne_zero_of_lt hn)
    unfold commentFrom
    refine agrees_takeWhile_through h hk (by decide) (fun plain c d h hk => ?_)
      (fun _ => (passes_looksAt "-->").bind_stops ((passes_looksAt "--").bind_stops
        (passes_peek.bind_stops stops_stop)))
      fun _ => (passes_looksAt "-->").bind_stops ((passes_looksAt "--").bind_stops
        (passes_peek.bind_stops stops_stop))
    refine agrees_ends h (by decide) (by decide) hk ?_
    refine agrees_looksAt h (by decide) (fun hlength => ?_) ?_
    · exact agrees_ite (fun _ => (agrees_skip h hlength (Nat.le_add_right_of_le hk)).bind
        fun _ _ _ _ _ _ => agrees_stop) fun _ => agrees_stop
    refine agrees_peek_eq h (by decide) (fun cs hd => ?_) agrees_stop
    exact agrees_skip_next h hd hk fun _ _ h hl =>
      (ih _ _ h (Nat.le_sub_one_of_lt hl) (by omega) (by omega)).mono (Nat.sub_le k 1)

/-- The four characters that open a comment were looked for before. -/
theorem agrees_commentText (h : c.Enclosed d) (hlength : 4 ≤ d.rest.length)
    (hk : d.rest.length ≤ k + 1) : Agrees c d k lead commentText commentText := by
  unfold commentText
  refine (agrees_skip (n := 4) (k := k) h hlength (by omega)).bind fun _ _ _ _ h hk => ?_
  exact agrees_fuelled _ h hk fun hk hm hn => agrees_commentFrom false [] h hk hm hn

/-- A comment keeps its line, which is the same for both. -/
theorem agrees_comment (h : c.Enclosed d) (hlength : 4 ≤ d.rest.length)
    (hk : d.rest.length ≤ k + 1) : Agrees c d k lead comment comment := by
  unfold comment
  exact (agrees_commentText h hlength hk).bind fun _ _ _ _ h hk =>
    (agrees_line h hk).bind fun _ _ _ _ h hk => agrees_pure h hk _

/-- An instruction is ended by its own mark only. -/
theorem agrees_instructionFrom (read : List Char) {m n : Nat} (h : c.Enclosed d)
    (hk : d.rest.length ≤ k) (hm : k < m) (hn : k < n) :
    Agrees c d k lead (instructionFrom read m) (instructionFrom read n) := by
  induction m generalizing n read k c d with
  | zero => omega
  | succ m ih =>
    obtain ⟨n, rfl⟩ := Nat.exists_eq_add_one_of_ne_zero (Nat.ne_zero_of_lt hn)
    unfold instructionFrom
    refine agrees_takeWhile_through h hk (by decide) (fun plain c d h hk => ?_)
      (fun _ => (passes_looksAt "?>").bind_stops (passes_peek.bind_stops stops_stop))
      fun _ => (passes_looksAt "?>").bind_stops (passes_peek.bind_stops stops_stop)
    refine agrees_ends h (by decide) (by decide) hk ?_
    refine agrees_peek_eq h (by decide) (fun cs hd => ?_) agrees_stop
    exact agrees_skip_next h hd hk fun _ _ h hl =>
      (ih _ h (Nat.le_sub_one_of_lt hl) (by omega) (by omega)).mono (Nat.sub_le k 1)

/-- A target is checked without reading on. -/
theorem agrees_checkTarget (dialect : Dialect) (target : String) (h : c.Enclosed d)
    (hk : d.rest.length ≤ k) :
    Agrees c d k lead (checkTarget dialect target) (checkTarget dialect target) := by
  have hcolon {c d : Cursor} (h : c.Enclosed d) (hk : d.rest.length ≤ k) : Agrees c d k lead
      (if dialect.namespaces && target.contains ':' then object else pure () : Read Unit)
      (if dialect.namespaces && target.contains ':' then object else pure () : Read Unit) :=
    agrees_ite (fun _ => agrees_object h hk) fun _ => agrees_pure h hk ()
  unfold checkTarget
  refine agrees_ite (fun _ => agrees_ite_stop fun _ => ?_) fun _ => hcolon h hk
  exact (agrees_notice h hk).bind fun _ _ _ _ h hk => hcolon h hk

/-- The two characters that open an instruction were looked for before. -/
theorem agrees_instruction (dialect : Dialect) (h : c.Enclosed d) (hlength : 2 ≤ d.rest.length)
    (hk : d.rest.length ≤ k + 1) :
    Agrees c d k lead (instruction dialect) (instruction dialect) := by
  unfold instruction instructionText
  refine Agrees.bind (l := k) ?_ fun _ _ _ _ h hk =>
    (agrees_line h hk).bind fun _ _ _ _ h hk => agrees_pure h hk _
  refine (agrees_skip (n := 2) (k := k) h hlength (by omega)).bind fun _ c d _ h hk => ?_
  refine (agrees_someName h hk).bind fun target _ _ _ h hk => ?_
  refine (agrees_checkTarget dialect target h hk).bind fun _ _ _ _ h hk => ?_
  refine agrees_ends h (by decide) (by decide) hk ?_
  refine (agrees_spaced h hk).bind fun _ _ _ _ h hk => ?_
  exact agrees_fuelled _ h hk fun hk hm hn => agrees_instructionFrom [] h hk hm hn

/-- A section of literal text is ended by its own mark only. -/
theorem agrees_literalFrom (read : List Char) {m n : Nat} (h : c.Enclosed d)
    (hk : d.rest.length ≤ k) (hm : k < m) (hn : k < n) :
    Agrees c d k lead (literalFrom read m) (literalFrom read n) := by
  induction m generalizing n read k c d with
  | zero => omega
  | succ m ih =>
    obtain ⟨n, rfl⟩ := Nat.exists_eq_add_one_of_ne_zero (Nat.ne_zero_of_lt hn)
    unfold literalFrom
    refine agrees_takeWhile_through h hk (by decide) (fun plain c d h hk => ?_)
      (fun _ => (passes_looksAt "]]>").bind_stops (passes_peek.bind_stops stops_stop))
      fun _ => (passes_looksAt "]]>").bind_stops (passes_peek.bind_stops stops_stop)
    refine agrees_ends h (by decide) (by decide) hk ?_
    refine agrees_peek_eq h (by decide) (fun cs hd => ?_) agrees_stop
    exact agrees_skip_next h hd hk fun _ _ h hl =>
      (ih _ h (Nat.le_sub_one_of_lt hl) (by omega) (by omega)).mono (Nat.sub_le k 1)

/-- The nine characters that open a section were looked for before. -/
theorem agrees_literal (h : c.Enclosed d) (hlength : 9 ≤ d.rest.length)
    (hk : d.rest.length ≤ k + 1) : Agrees c d k lead literal literal := by
  unfold literal
  refine (agrees_skip (n := 9) (k := k) h hlength (by omega)).bind fun _ _ _ _ h hk => ?_
  exact agrees_fuelled _ h hk fun hk hm hn => agrees_literalFrom [] h hk hm hn

/-- Characters are read up to `<` or the end of the text, where the end tag begins with `<` itself.
-/
theorem agrees_characters (read : List Char) {m n : Nat} (h : c.Enclosed d)
    (hk : d.rest.length ≤ k) (hm : k < m) (hn : k < n) :
    Agrees c d k lead (characters read m) (characters read n) := by
  induction m generalizing n read k c d with
  | zero => omega
  | succ m ih =>
    obtain ⟨n, rfl⟩ := Nat.exists_eq_add_one_of_ne_zero (Nat.ne_zero_of_lt hn)
    unfold characters
    refine (agrees_takeWhile h hk (by decide)).bind fun plain c d _ h hk => ?_
    refine agrees_peek h (fun _ => agrees_pure h hk _) fun x cs hd => ?_
    split
    · refine agrees_looksAt h (by decide) (fun _ => agrees_stop) ?_
      exact agrees_skip_next h hd hk fun _ _ h hl =>
        (ih _ h (Nat.le_sub_one_of_lt hl) (by omega) (by omega)).mono (Nat.sub_le k 1)
    · exact agrees_ite (fun _ => agrees_pure h hk _) fun _ => agrees_stop
    · exact agrees_pure h hk _

end

end Read

end AttrTemplates.Xml
