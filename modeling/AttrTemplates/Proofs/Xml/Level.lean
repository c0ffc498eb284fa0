import AttrTemplates.Xml.Source

/-!
# `AttrTemplates.Proofs.Xml.Level`: reading from different places

Two cursors are level if the same text is still to come and the same has been found so far, wherever
they are. What is read from there is the same but for lines, and a fault is one in both cases,
although it is reported at another position.

* `Read.Abreast R r r'` is the judgment that two readers, from level cursors, both stop or have
  results that are related by `R`. It is closed under sequencing.
* `Read.Blind r` is the case of one reader that has the same result in both cases. There is a lemma
  for each of the small readers that follows its definition. None of them looks at the line it is on.
-/

set_option autoImplicit false

namespace AttrTemplates.Xml

/-! ### Level cursors -/

/-- Findings without the position of the objection. -/
def Findings.unplaced (f : Findings) : Findings :=
  { f with objection := f.objection.map fun _ => ⟨1, 1⟩ }

/-- The same is still to come, and the same has been found. -/
structure Cursor.Level (c d : Cursor) : Prop where
  rest : c.rest = d.rest
  findings : c.findings.unplaced = d.findings.unplaced

/-- The identifiers found are no positions, so they are the same. -/
theorem Findings.ids_eq {f g : Findings} (h : f.unplaced = g.unplaced) : f.ids = g.ids :=
  (Findings.mk.inj h).2.2.1

/-- Whether identifiers are still checked does not depend on places. -/
theorem Findings.checked_eq {f g : Findings} (h : f.unplaced = g.unplaced) :
    f.checked = g.checked :=
  (Findings.mk.inj h).2.2.2

/-- Whether there is a verdict does not depend on places. -/
theorem Findings.isSome_verdict {f g : Findings} (h : f.unplaced = g.unplaced) :
    f.verdict.isSome = g.verdict.isSome := by
  obtain ⟨hobjection, hnoticed, -, -⟩ := Findings.mk.inj h
  have hsome := congrArg Option.isSome hobjection
  rw [Option.isSome_map, Option.isSome_map] at hsome
  unfold Findings.verdict
  rw [hnoticed]
  split
  · rfl
  · exact hsome

namespace Read

section

variable {α β γ δ : Type} {R : α → β → Prop} {S : γ → δ → Prop}

/-- Two readings come to the same: both stop, or both have results that are related, and what is left
is level. -/
inductive SameReading (R : α → β → Prop) :
    Except Position (α × Cursor) → Except Position (β × Cursor) → Prop
  | succeeds {a : α} {b : β} {c d : Cursor} : R a b → c.Level d →
      SameReading R (.ok (a, c)) (.ok (b, d))
  | fails (p q : Position) : SameReading R (.error p) (.error q)

/-- From level cursors two readers come to the same. -/
def Abreast (R : α → β → Prop) (r : Read α) (r' : Read β) : Prop :=
  ∀ ⦃c d⦄, c.Level d → SameReading R (r c) (r' d)

/-- A reader does not depend on the place. -/
def Blind (r : Read α) : Prop := Abreast Eq r r

/-! ### Sequences -/

/-- Nothing is read, so what is left stays level. -/
theorem abreast_pure {a : α} {b : β} (h : R a b) : Abreast R (pure a) (pure b) :=
  fun _ _ hcd => .succeeds h hcd

/-- Both stop at once, whatever their results were to be related by. -/
theorem abreast_stop : Abreast R stop stop := fun _ _ _ => .fails _ _

/-- Related results are read by the first parts, and what follows is abreast from any such pair. -/
theorem Abreast.bind {r : Read α} {r' : Read β} {f : α → Read γ} {f' : β → Read δ}
    (hr : Abreast R r r') (hf : ∀ a b, R a b → Abreast S (f a) (f' b)) :
    Abreast S (r >>= f) (r' >>= f') := by
  intro c d hcd
  have hfirst := hr hcd
  show SameReading S (r c >>= fun x => f x.1 x.2) (r' d >>= fun x => f' x.1 x.2)
  generalize r c = x at hfirst
  generalize r' d = y at hfirst
  cases hfirst with
  | succeeds hab hleft => exact hf _ _ hab hleft
  | fails p q => exact .fails p q

/-- What does not depend on the place may come first. -/
theorem Blind.bind_abreast {r : Read α} {f : α → Read γ} {f' : α → Read δ} (hr : Blind r)
    (hf : ∀ a, Abreast S (f a) (f' a)) : Abreast S (r >>= f) (r >>= f') := by
  refine Abreast.bind hr ?_
  rintro a _ rfl
  exact hf a

/-- The second part may depend on what the first one has read, which is the same in both cases. -/
theorem Blind.bind {r : Read α} {f : α → Read β} (hr : Blind r) (hf : ∀ a, Blind (f a)) :
    Blind (r >>= f) :=
  hr.bind_abreast hf

/-- The condition does not speak of the cursor, so both take the same branch. -/
theorem abreast_ite {c : Prop} [Decidable c] {r s : Read α} {r' s' : Read β}
    (hr : Abreast R r r') (hs : Abreast R s s') :
    Abreast R (if c then r else s) (if c then r' else s') := by
  split
  · exact hr
  · exact hs

/-- A check that stops does so in both cases. -/
theorem abreast_ite_stop {c : Prop} [Decidable c] {f : Unit → Read α} {f' : Unit → Read β}
    (hf : Abreast R (f ()) (f' ())) :
    Abreast R (if c then (do let x ← stop; f x) else f ())
      (if c then (do let x ← stop; f' x) else f' ()) :=
  abreast_ite (abreast_stop.bind (R := fun _ _ => False) fun _ _ h => h.elim) hf

/-- A step may be left out in both cases. -/
theorem abreast_ite_step {c : Prop} [Decidable c] {r : Read Unit} {f : Unit → Read α}
    {f' : Unit → Read β} (hr : Blind r) (hf : Abreast R (f ()) (f' ())) :
    Abreast R (if c then (do let x ← r; f x) else f ())
      (if c then (do let x ← r; f' x) else f' ()) :=
  abreast_ite (hr.bind_abreast fun _ => hf) hf

/-- A result that is known beforehand is read anywhere. -/
theorem blind_pure (a : α) : Blind (pure a : Read α) := abreast_pure rfl

/-- Only the place of the fault differs. -/
theorem blind_stop : Blind (stop : Read α) := abreast_stop

/-- A choice that is made beforehand is the same from both cursors. -/
theorem blind_ite {c : Prop} [Decidable c] {r s : Read α} (hr : Blind r) (hs : Blind s) :
    Blind (if c then r else s) :=
  abreast_ite hr hs

/-- A check made beforehand stops from both cursors or from neither. -/
theorem blind_ite_stop {c : Prop} [Decidable c] {f : Unit → Read α} (hf : Blind (f ())) :
    Blind (if c then (do let x ← stop; f x) else f ()) :=
  abreast_ite_stop hf

/-- A step that is made under a condition is made from both cursors or from neither. -/
theorem blind_ite_step {c : Prop} [Decidable c] {r : Read Unit} {f : Unit → Read α}
    (hr : Blind r) (hf : Blind (f ())) : Blind (if c then (do let x ← r; f x) else f ()) :=
  abreast_ite_step hr hf

/-- Readings made one after the other do not depend on the place if none of them does. -/
theorem blind_mapM {f : α → Read β} (hf : ∀ a, Blind (f a)) (as : List α) :
    Blind (as.mapM f) := by
  induction as with
  | nil => exact blind_pure []
  | cons a as ih =>
    rw [List.mapM_cons]
    exact (hf a).bind fun b => ih.bind fun bs => blind_pure (b :: bs)

/-! ### Steps -/

/-- An entry in the findings keeps them level if it adds nothing that depends on more than the level
part. -/
theorem blind_remember {f : Findings → Findings}
    (hf : ∀ g g', g.unplaced = g'.unplaced → (f g).unplaced = (f g').unplaced) :
    Blind (remember f) :=
  fun _ _ hcd => .succeeds rfl ⟨hcd.rest, hf _ _ hcd.findings⟩

/-- A thing noticed is noted as such, without its place. -/
theorem blind_notice : Blind notice := by
  refine blind_remember fun g g' h => ?_
  obtain ⟨hobjection, -, hids, hchecked⟩ := Findings.mk.inj h
  exact Findings.mk.injEq .. ▸ ⟨hobjection, rfl, hids, hchecked⟩

/-- An objection is noted with the place, which the level part forgets, and only the first one is
kept. -/
theorem blind_object : Blind object := by
  intro c d hcd
  obtain ⟨-, -, hids, hchecked⟩ := Findings.mk.inj hcd.findings
  refine .succeeds rfl ⟨hcd.rest, ?_⟩
  exact Findings.mk.injEq .. ▸ ⟨rfl, rfl, hids, hchecked⟩

/-- Of what has been found all but the position of an objection may be used. -/
theorem abreast_findings_bind {f : Findings → Read α} {f' : Findings → Read β}
    (hf : ∀ g g', g.unplaced = g'.unplaced → Abreast R (f g) (f' g')) :
    Abreast R (findings >>= f) (findings >>= f') := by
  refine Abreast.bind (R := fun g g' => g.unplaced = g'.unplaced) ?_ hf
  exact fun _ _ hcd => .succeeds hcd.findings hcd

/-- The lines that cursors are on have nothing to do with each other. -/
theorem abreast_line : Abreast (fun _ _ => True) line line := fun _ _ hcd => .succeeds trivial hcd

/-- Level cursors have the same text to come. -/
theorem blind_rest : Blind rest := fun _ _ hcd => .succeeds hcd.rest hcd

/-- The character that comes next is the first one of that text. -/
theorem blind_peek : Blind peek := fun _ _ hcd => .succeeds (congrArg List.head? hcd.rest) hcd

/-- Whether a string comes next is seen from the text alone. -/
theorem blind_looksAt (s : String) : Blind (looksAt s) :=
  fun _ _ hcd => .succeeds (congrArg s.toList.isPrefixOf hcd.rest) hcd

/-- Characters are counted off from the text, and only the place moves by what they are. -/
theorem blind_skip (n : Nat) : Blind (skip n) :=
  fun _ _ hcd => .succeeds rfl ⟨congrArg (List.drop n) hcd.rest, hcd.findings⟩

/-- Bytes move the column, which is not compared. -/
theorem blind_skipBytes (n : Nat) : Blind (skipBytes n) :=
  fun _ _ hcd => .succeeds rfl ⟨congrArg (List.drop n) hcd.rest, hcd.findings⟩

/-- A character that is not counted is taken from the text like any other. -/
theorem blind_skipUncounted : Blind skipUncounted :=
  fun _ _ hcd => .succeeds rfl ⟨congrArg (List.drop 1) hcd.rest, hcd.findings⟩

/-- A run of characters ends where the text says so. -/
theorem blind_takeWhile (p : Char → Bool) : Blind (takeWhile p) := by
  intro c d hcd
  have hspan := congrArg (List.span p) hcd.rest
  exact .succeeds (congrArg Prod.fst hspan) ⟨congrArg Prod.snd hspan, hcd.findings⟩

/-- A string that is expected comes next in both cases or in neither. -/
theorem blind_expect (s : String) : Blind (expect s) := by
  unfold expect
  exact (blind_looksAt s).bind fun _ => blind_ite (blind_skip _) blind_stop

/-- Blanks are skipped, lines or not. -/
theorem blind_blanks : Blind blanks := by
  unfold blanks
  exact (blind_takeWhile _).bind fun _ => blind_pure _

/-- Blanks that must stand there are seen by whether something was skipped. -/
theorem blind_spaced : Blind spaced := by
  unfold spaced
  exact blind_blanks.bind fun _ => blind_ite blind_stop (blind_pure ())

/-- The text of an entity is the same wherever the reference to it is. -/
theorem Blind.within {r : Read α} (hr : Blind r) (text : List Char) : Blind (within text r) := by
  intro c d hcd
  -- Inside the entity positions are counted anew.
  let inner (c : Cursor) : Cursor :=
    { rest := text, position := ⟨1, 1⟩, origin := some c.position, findings := c.findings }
  have hinner := hr (c := inner c) (d := inner d) ⟨rfl, hcd.findings⟩
  show SameReading Eq (r (inner c) >>= fun x => .ok (x.1, { c with findings := x.2.findings }))
    (r (inner d) >>= fun x => .ok (x.1, { d with findings := x.2.findings }))
  generalize r (inner c) = x at hinner
  generalize r (inner d) = y at hinner
  cases hinner with
  | succeeds hab hleft => exact .succeeds hab ⟨hcd.rest, hleft.findings⟩
  | fails p q => exact .fails p q

end

/-! ### Names, references and values -/

/-- Whether a name comes next is seen from the text. -/
theorem blind_name? : Blind name? := by
  unfold name?
  refine blind_peek.bind fun next => ?_
  split
  · exact blind_ite ((blind_takeWhile _).bind fun _ => blind_pure _) (blind_pure none)
  · exact blind_pure none

/-- A name that must come is there in both cases or in neither. -/
theorem blind_someName : Blind someName := by
  unfold someName
  refine blind_name?.bind fun n? => ?_
  split
  · exact blind_pure _
  · exact blind_stop

/-- A name is read with its prefix, and the dialect, which says how colons are read, is the same. -/
theorem blind_written? (d : Dialect) : Blind (written? d) := by
  unfold written?
  refine blind_name?.bind fun n? => ?_
  split
  · exact blind_pure none
  · refine blind_ite (blind_pure _) ?_
    split
    · exact blind_pure _
    · split
      · exact blind_pure _
      · exact blind_object.bind fun _ => blind_pure _

/-- A character reference stands for what its digits say. -/
theorem blind_characterReference : Blind characterReference := by
  have hbase : Blind (do
      if (← peek) == some 'x' then
        skip 1
        pure 16
      else pure 10 : Read Nat) :=
    blind_peek.bind fun _ => blind_ite ((blind_skip 1).bind fun _ => blind_pure _) (blind_pure _)
  unfold characterReference
  refine hbase.bind fun base => (blind_takeWhile _).bind fun digits => blind_peek.bind fun next => ?_
  exact blind_ite_stop ((blind_skip 1).bind fun _ => blind_ite (blind_pure _) blind_stop)

/-- The name of an entity ends at a semicolon that comes next in both cases or in neither. -/
theorem blind_entityName : Blind entityName := by
  unfold entityName
  exact blind_someName.bind fun _ => (blind_expect ";").bind fun _ => blind_pure _

/-- An expansion is read from a text of its own, so where it was referred to does not matter. -/
theorem blind_expansion (g : Setting) (depth : Nat) (replacement : String) :
    Blind (expansion g depth replacement) := by
  induction depth generalizing replacement with
  | zero => exact blind_stop
  | succ depth ih =>
    unfold expansion
    -- The text is taken apart on its own, wherever it is needed.
    split
    · exact blind_stop
    · refine (blind_mapM (fun part => ?_) _).bind fun texts => blind_pure _
      split
      · exact blind_pure _
      · split
        · exact blind_pure _
        · exact ih _
        · exact blind_stop
        · exact blind_ite_stop (blind_notice.bind fun _ => blind_pure _)

/-- Every round takes one part of the value off the text, and the induction is on the rounds left.
-/
theorem blind_attributeValueFrom (g : Setting) (quote : Char) (read : List ValuePart)
    (fuel : Nat) : Blind (attributeValueFrom g quote read fuel) := by
  induction fuel generalizing read with
  | zero => exact blind_stop
  | succ fuel ih =>
    unfold attributeValueFrom
    refine (blind_takeWhile _).bind fun plain => blind_peek.bind fun next => ?_
    split
    · refine (blind_skip 1).bind fun _ => blind_peek.bind fun _ => blind_ite ?_ ?_
      · exact (blind_skip 1).bind fun _ => blind_characterReference.bind fun _ => ih _
      · refine blind_entityName.bind fun n => ?_
        split
        · exact ih _
        · exact (blind_expansion g _ _).bind fun _ => ih _
        · exact blind_stop
        · exact blind_ite_stop (blind_notice.bind fun _ => ih _)
    · exact blind_ite ((blind_skip 1).bind fun _ => blind_pure _) blind_stop
    · exact blind_stop

/-- The quotation mark that opens a value is the one that ends it, wherever that is. -/
theorem blind_attributeValue (g : Setting) : Blind (attributeValue g) := by
  unfold attributeValue
  refine blind_peek.bind fun next => ?_
  split
  · refine blind_ite_stop ((blind_skip 1).bind fun _ => blind_rest.bind fun _ => ?_)
    exact blind_attributeValueFrom g _ _ _
  · exact blind_stop

/-! ### Texts -/

/-- A comment is read until the two hyphens that end it. -/
theorem blind_commentFrom (wide : Bool) (read : List Char) (fuel : Nat) :
    Blind (commentFrom wide read fuel) := by
  induction fuel generalizing wide read with
  | zero => exact blind_stop
  | succ fuel ih =>
    unfold commentFrom
    refine (blind_takeWhile _).bind fun plain => (blind_looksAt "-->").bind fun _ => ?_
    refine blind_ite ((blind_skip 3).bind fun _ => blind_pure _) ?_
    refine (blind_looksAt "--").bind fun _ => blind_ite ?_ ?_
    · exact blind_ite_step (blind_skip 2) blind_stop
    · exact blind_peek.bind fun _ => blind_ite ((blind_skip 1).bind fun _ => ih _ _) blind_stop

/-- A comment reads the same on any line. -/
theorem blind_commentText : Blind commentText := by
  unfold commentText
  exact (blind_skip 4).bind fun _ => blind_rest.bind fun _ =>
    (blind_commentFrom _ _ _).bind fun _ => blind_pure _

/-- An instruction is read until the mark that ends it. -/
theorem blind_instructionFrom (read : List Char) (fuel : Nat) :
    Blind (instructionFrom read fuel) := by
  induction fuel generalizing read with
  | zero => exact blind_stop
  | succ fuel ih =>
    unfold instructionFrom
    refine (blind_takeWhile _).bind fun plain => (blind_looksAt "?>").bind fun _ => ?_
    refine blind_ite ((blind_skip 2).bind fun _ => blind_pure _) ?_
    exact blind_peek.bind fun _ => blind_ite ((blind_skip 1).bind fun _ => ih _) blind_stop

/-- Whether a target is allowed depends on the target and the dialect. -/
theorem blind_checkTarget (d : Dialect) (target : String) : Blind (checkTarget d target) := by
  have hcolon : Blind (if d.namespaces && target.contains ':' then object else pure () : Read Unit) :=
    blind_ite blind_object (blind_pure ())
  unfold checkTarget
  exact blind_ite (blind_ite_stop (blind_notice.bind fun _ => hcolon)) hcolon

/-- An instruction reads the same on any line. -/
theorem blind_instructionText (d : Dialect) : Blind (instructionText d) := by
  unfold instructionText
  refine (blind_skip 2).bind fun _ => blind_someName.bind fun target =>
    (blind_checkTarget d target).bind fun _ => (blind_looksAt "?>").bind fun _ => ?_
  refine blind_ite ((blind_skip 2).bind fun _ => blind_pure _) ?_
  exact blind_spaced.bind fun _ => blind_rest.bind fun _ =>
    (blind_instructionFrom _ _).bind fun _ => blind_pure _

/-- A section of literal text is read until its own end mark. -/
theorem blind_literalFrom (read : List Char) (fuel : Nat) : Blind (literalFrom read fuel) := by
  induction fuel generalizing read with
  | zero => exact blind_stop
  | succ fuel ih =>
    unfold literalFrom
    refine (blind_takeWhile _).bind fun plain => (blind_looksAt "]]>").bind fun _ => ?_
    refine blind_ite ((blind_skip 3).bind fun _ => blind_pure _) ?_
    exact blind_peek.bind fun _ => blind_ite ((blind_skip 1).bind fun _ => ih _) blind_stop

/-- Literal text reads the same on any line. -/
theorem blind_literal : Blind literal := by
  unfold literal
  exact (blind_skip 9).bind fun _ => blind_rest.bind fun _ =>
    (blind_literalFrom _ _).bind fun _ => blind_pure _

/-- Characters are read until markup comes next, which both cursors see at once. -/
theorem blind_characters (read : List Char) (fuel : Nat) : Blind (characters read fuel) := by
  induction fuel generalizing read with
  | zero => exact blind_stop
  | succ fuel ih =>
    unfold characters
    refine (blind_takeWhile _).bind fun plain => blind_peek.bind fun next => ?_
    split
    · exact (blind_looksAt "]]>").bind fun _ => blind_ite_stop ((blind_skip 1).bind fun _ => ih _)
    · exact blind_ite (blind_pure _) blind_stop
    · exact blind_pure _

end Read

end AttrTemplates.Xml
