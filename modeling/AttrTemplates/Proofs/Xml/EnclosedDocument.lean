import AttrTemplates.Proofs.Xml.EnclosedContent

/-!
# `AttrTemplates.Proofs.Xml.EnclosedDocument`: the document around a text

A text is put between `Read.opening` and `Read.closing` and the whole is read as a document.
`Read.contentAlone?` reads the text by itself, as content that has to go on to its end.
`Read.wholeDocument_enclosed` says that both come to the same: the text cannot end the element before
its end, nor leave anything open behind it.
-/

set_option autoImplicit false

namespace AttrTemplates.Xml.Read

section

variable {lead : Lead} {k : Nat} {c d : Cursor}

/-- Around an element there are comments and instructions, which are read by both. -/
theorem agrees_surroundings (dialect : Dialect) (read : List Node) {m n : Nat} (h : c.Enclosed d)
    (hk : d.rest.length ≤ k) (hm : k < m) (hn : k < n) :
    Agrees c d k lead (surroundings dialect read m) (surroundings dialect read n) := by
  induction m generalizing n read k c d with
  | zero => omega
  | succ m ih =>
    obtain ⟨n, rfl⟩ := Nat.exists_eq_add_one_of_ne_zero (Nat.ne_zero_of_lt hn)
    have hnext (node : Node) {c d : Cursor} (hpos : 2 ≤ k) (h : c.Enclosed d)
        (hl : d.rest.length ≤ k - 1) : Agrees c d k lead (surroundings dialect (read ++ [node]) m)
          (surroundings dialect (read ++ [node]) n) :=
      (ih _ h hl (by omega) (by omega)).mono (Nat.sub_le k 1)
    unfold surroundings
    refine (agrees_blanks h hk).bind fun _ c d _ h hk => ?_
    refine agrees_looksAt h (by decide) (fun hlength => ?_) ?_
    · have hpos : 2 ≤ k := Nat.le_trans hlength hk
      exact (agrees_instruction (k := k - 1) dialect h hlength (by omega)).bind
        fun node _ _ _ h hl => hnext node hpos h hl
    refine agrees_looksAt h (by decide) (fun hlength => ?_) (agrees_pure h hk _)
    have hpos : 4 ≤ k := Nat.le_trans hlength hk
    exact (agrees_comment (k := k - 1) h hlength (by omega)).bind fun node _ _ _ h hl =>
      hnext node (by omega) h hl

/-- The name of the element that is put around a text. -/
def wrapper : Written := ⟨none, "fragment"⟩

/-- The beginning of that element. -/
def opening : List Char := ['<', 'f', 'r', 'a', 'g', 'm', 'e', 'n', 't', '>']

/-- Reads the end of that element from behind its children. -/
def endOfElement (children : List Node) : Read Node := do
  if (← peek) == none then stop
  endTag .namespaced wrapper
  pure (.element ⟨.plain "fragment", [], [], some 1⟩ children)

/-- Reads the end of a document from behind its root. -/
def endOfDocument (length : Nat) (root : Node) : Read Document := do
  let closing ← surroundings .namespaced [] (length + 1)
  if (← peek) != none then stop
  pure { version := "1.0", opening := [], doctype := none, heading := [], root, tail := [],
         outer := [], closing }

/-- A document that begins with the start tag is its content, the end tag and what follows. -/
theorem document_opening (cs : List Char) :
    document .namespaced (Cursor.start (opening ++ cs))
      = (content undeclared [⟨[], none⟩] 1 [] (2 * (opening ++ cs).length) >>= fun children =>
          endOfElement children >>= endOfDocument (opening ++ cs).length)
        { rest := cs, position := ⟨1, 11⟩ } := by
  rw [← bind_assoc]
  rfl

/-- The document that has a text as the content of its root, when it has been read. -/
def wrapping (children : List Node) : Document :=
  Document.ofNode "1.0" (.element ⟨.plain "fragment", [], [], some 1⟩ children) [] []

/-- The end of the wrapper is the end of the document. -/
theorem passes_closing (length : Nat) (children : List Node) :
    Passes (endOfElement children >>= endOfDocument length) closing (wrapping children) [] := by
  have helement : Passes (endOfElement children) closing
      (.element ⟨.plain "fragment", [], [], some 1⟩ children) [] := by
    rintro ⟨_, position, origin, findings⟩ rfl
    exact ⟨_, rfl⟩
  have hdocument : Passes (endOfDocument length (.element ⟨.plain "fragment", [], [], some 1⟩
      children)) [] (wrapping children) [] := by
    rintro ⟨_, position, origin, findings⟩ rfl
    exact ⟨_, rfl⟩
  exact helement.bind hdocument

/-- An end tag in the text may end the wrapper, but then the document goes on where it has to end. -/
theorem fails_of_early_end (length : Nat) (children : List Node) (h : c.Enclosed d)
    (hends : "</".toList.isPrefixOf d.rest = true) (hlength : d.rest.length ≤ length) :
    ∃ p, (endOfElement children >>= endOfDocument length) c = .error p := by
  have hpos : 2 ≤ d.rest.length := (List.isPrefixOf_iff_prefix.mp hends).length_le
  -- The text alone is read on in the same way, and then given up.
  have hagrees : Agrees c d length .none (endOfElement children >>= endOfDocument length)
      (endOfElement children >>= fun _ => do
        let _ ← surroundings .namespaced [] (length + 1)
        (stop : Read Document)) := by
    refine Agrees.bind (l := length) ?_ fun root _ _ _ h hk => ?_
    · unfold endOfElement
      refine agrees_peek h (fun hd => ?_) fun x cs hd => agrees_ite_stop fun _ => ?_
      · rw [hd] at hpos
        cases hpos
      · exact (agrees_endTag _ (by decide) h hpos hlength).bind fun _ _ _ _ h hk =>
          agrees_pure h hk _
    · unfold endOfDocument
      refine (agrees_surroundings _ [] h hk (Nat.lt_succ_self _) (Nat.lt_succ_self _)).bind
        fun _ c d _ h _ => ?_
      obtain ⟨y, hnext⟩ : ∃ y, (d.rest ++ closing).head? = some y := by
        cases d.rest with
        | nil => exact ⟨_, rfl⟩
        | cons y cs => exact ⟨y, rfl⟩
      refine .of_stops (passes_peek.bind_stops ?_) h.rest _
      rw [hnext]
      exact stops_stop.bind
  have hstop : Yields (fun _ : Document => False) (endOfElement children >>= fun _ => do
      let _ ← surroundings .namespaced [] (length + 1)
      (stop : Read Document)) :=
    yields_bind fun _ => yields_bind fun _ => yields_stop
  unfold Agrees at hagrees
  generalize (endOfElement children >>= endOfDocument length) c = x at hagrees
  generalize hy : (endOfElement children >>= _) d = y at hagrees
  cases hagrees with
  | succeeds _ _ => exact (hstop hy).elim
  | fails p _ => exact ⟨p, rfl⟩

/-- The nodes of a text that is content by itself, in an element that declares no namespaces. It is
none unless it consists of whole characters and can be read to its end without objections. -/
def contentAlone? (cs : List Char) : Option (List Node) :=
  if cs.any fun c => (Text.half? c).isSome then none
  else match content undeclared [⟨[], none⟩] 1 [] (2 * cs.length + 1) (Cursor.start cs) with
  | .ok (ns, c) => if c.rest.isEmpty && c.findings.verdict.isNone then some ns else none
  | .error _ => none

/-- What is no document in the first reading is none. -/
theorem wholeDocument_of_error {cs : List Char} {p : Position}
    (h : document .namespaced (Cursor.start cs) = .error p) :
    wholeDocument .namespaced cs = .error p := by
  unfold wholeDocument all
  rw [h]
  rfl

/-- What is one is a document unless something was objected to. -/
theorem wholeDocument_of_ok {cs : List Char} {document : Document} {c : Cursor}
    (h : Read.document .namespaced (Cursor.start cs) = .ok (document, c)) :
    wholeDocument .namespaced cs = match c.findings.verdict with
      | some p => .error p
      | none => .ok document := by
  unfold wholeDocument all
  rw [h]
  rfl

/-- The wrapper ends where a text ends that is content to its end. The document has an objection just
when the text alone has one. -/
theorem wholeDocument_of_content {cs : List Char} {ns : List Node}
    (hopening : document .namespaced (Cursor.start (opening ++ (cs ++ closing)))
      = (endOfElement ns >>= endOfDocument (opening ++ (cs ++ closing)).length) c)
    (h : c.Enclosed d) (hd : d.rest = []) :
    (d.findings.verdict = none →
      wholeDocument .namespaced (opening ++ (cs ++ closing)) = .ok (wrapping ns)) ∧
    (d.findings.verdict ≠ none →
      ∃ p, wholeDocument .namespaced (opening ++ (cs ++ closing)) = .error p) := by
  have hc : c.rest = closing := by rw [h.rest, hd, List.nil_append]
  obtain ⟨position, hclosing⟩ := passes_closing (opening ++ (cs ++ closing)).length ns c hc
  have hverdict := Findings.isSome_verdict h.findings
  rw [wholeDocument_of_ok (hopening.trans hclosing)]
  dsimp only
  cases hfound : c.findings.verdict with
  | none =>
    rw [hfound] at hverdict
    exact ⟨fun _ => rfl, fun hne => absurd (Option.not_isSome_iff_eq_none.mp
      (Bool.eq_false_iff.mp hverdict.symm)) hne⟩
  | some p =>
    refine ⟨fun hnone => ?_, fun _ => ⟨p, rfl⟩⟩
    rw [hfound, hnone] at hverdict
    cases hverdict

/-- A text can be read inside an element just when it is content by itself, and as the same nodes. -/
theorem wholeDocument_enclosed {cs : List Char}
    (hwhole : (cs.any fun c => (Text.half? c).isSome) = false) :
    (∀ ns, contentAlone? cs = some ns →
      wholeDocument .namespaced (opening ++ (cs ++ closing)) = .ok (wrapping ns)) ∧
    (contentAlone? cs = none →
      ∃ p, wholeDocument .namespaced (opening ++ (cs ++ closing)) = .error p) := by
  have hopening := document_opening (cs ++ closing)
  rw [bind_eq] at hopening
  have hagrees := (contentAgrees (2 * (opening ++ (cs ++ closing)).length)).agrees_content
    [⟨[], none⟩] 1 [] (c := { rest := cs ++ closing, position := ⟨1, 11⟩ }) (d := Cursor.start cs)
    (k := cs.length) (n := 2 * cs.length + 1) ⟨rfl, rfl, rfl⟩ (Nat.le_refl _)
    (by simp [opening, closing]; omega) (Nat.lt_succ_self _)
  unfold Agrees at hagrees
  unfold contentAlone?
  rw [hwhole]
  generalize content undeclared _ _ _ _ { rest := cs ++ closing, position := _ } = x
    at hagrees hopening
  generalize hy : content undeclared _ _ _ _ (Cursor.start cs) = y at hagrees
  cases hagrees with
  | fails p q =>
    refine ⟨fun _ h => ?_, fun _ => ⟨p, wholeDocument_of_error hopening⟩⟩
    cases h
  | @enclosed q ns c hc =>
    -- The wrapper was taken for an element of the text, and is not ended.
    have hstops : Stops (endOfElement ns) [] := by
      unfold endOfElement
      exact passes_peek.bind_stops stops_stop.bind
    obtain ⟨p, hp⟩ := hstops.bind (f := endOfDocument (opening ++ (cs ++ closing)).length) c hc
    refine ⟨fun _ h => ?_, fun _ => ⟨p, wholeDocument_of_error (hopening.trans hp)⟩⟩
    cases h
  | @succeeds _ ns c d hcd hk =>
    rcases leaves_content _ _ _ _ _ trivial hy with hd | hends
    · obtain ⟨hok, herror⟩ := wholeDocument_of_content hopening hcd hd
      dsimp only
      rw [hd]
      cases hfound : d.findings.verdict with
      | none =>
        refine ⟨fun ms hms => ?_, fun h => nomatch h⟩
        cases hms
        exact hok hfound
      | some q =>
        exact ⟨(fun _ hms => nomatch hms), fun _ => herror (by rw [hfound]; exact nofun)⟩
    · obtain ⟨p, hp⟩ := fails_of_early_end (opening ++ (cs ++ closing)).length ns hcd hends
        (by simp; omega)
      have hrest : d.rest.isEmpty = false := by
        cases hd : d.rest with
        | nil => rw [hd] at hends; cases hends
        | cons => rfl
      dsimp only
      rw [hrest]
      exact ⟨(fun _ hms => nomatch hms), fun _ => ⟨p, wholeDocument_of_error (hopening.trans hp)⟩⟩

end

end AttrTemplates.Xml.Read
