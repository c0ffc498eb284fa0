import AttrTemplates.Proofs.Text.Pieces
import AttrTemplates.Proofs.Xml.Enclosed

/-!
# `AttrTemplates.Proofs.Xml.EnclosedContent`: content inside an element and alone

The readers of tags, content and elements agree on an enclosed text and on the text alone. The two
places at which one of the readings may go on are settled here:

* `agrees_startTag`: at the end of the text alone there may be a start tag without its `>`. Whoever
  reads an element stops there.
* `ContentAgrees.element_succ`: an element that is open at the end of the text alone is ended by the
  end tag that was put behind the text, if it has that name. `leaves_endTag_closing` says that
  nothing is left then, so the element around it is not ended (`content_end`).

The readers of content and elements call each other with less fuel each time, so what is left of the
text has to be compared with it: `ContentAgrees` asks for twice as much.
-/

set_option autoImplicit false

namespace AttrTemplates.Xml.Read

section

variable {α β : Type} {lead : Lead} {k l : Nat} {c d : Cursor}

/-! ### Start tags -/

/-- Readings made one after the other agree if each of them does from any two places. -/
theorem agrees_mapM {f : α → Read β}
    (hf : ∀ a c d, c.Enclosed d → d.rest.length ≤ k → Agrees c d k .none (f a) (f a))
    (as : List α) (h : c.Enclosed d) (hk : d.rest.length ≤ k) :
    Agrees c d k lead (as.mapM f) (as.mapM f) := by
  induction as generalizing c d lead with
  | nil => exact agrees_pure h hk []
  | cons a as ih =>
    rw [List.mapM_cons]
    exact (hf a c d h hk).bind fun b _ _ _ h hk => (ih h hk).bind fun bs _ _ _ h hk =>
      agrees_pure h hk (b :: bs)

/-- What an attribute declares is decided without reading on. -/
theorem agrees_declaration (a : WrittenAttribute) (h : c.Enclosed d) (hk : d.rest.length ≤ k) :
    Agrees c d k lead (declaration a) (declaration a) := by
  have hobject {c d : Cursor} {x : Option Binding} (h : c.Enclosed d) (hk : d.rest.length ≤ k) :
      Agrees c d k lead (do object; pure x) (do object; pure x) :=
    (agrees_object h hk).bind fun _ _ _ _ h hk => agrees_pure h hk x
  unfold declaration
  split
  · -- Behind any complaint about the prefix, the namespace is looked at in the same way.
    have hrest {c d : Cursor} (h : c.Enclosed d) (hk : d.rest.length ≤ k) :
        Agrees c d k lead
          (if a.value == xmlNamespace || a.value == xmlnsNamespace then
            (do object; pure none : Read (Option Binding))
          else pure (some ⟨none, a.value⟩))
          (if a.value == xmlNamespace || a.value == xmlnsNamespace then
            (do object; pure none : Read (Option Binding))
          else pure (some ⟨none, a.value⟩)) :=
      agrees_ite (fun _ => hobject h hk) fun _ => agrees_pure h hk _
    refine agrees_ite (fun _ => ?_) fun _ => hrest h hk
    split
    · exact hrest h hk
    · exact (agrees_notice h hk).bind fun _ _ _ _ h hk => hrest h hk
    · exact (agrees_object h hk).bind fun _ _ _ _ h hk => hrest h hk
  · refine agrees_ite (fun _ => agrees_ite (fun _ => hobject h hk) fun _ => agrees_pure h hk _)
      fun _ => agrees_ite (fun _ => hobject h hk) fun _ => ?_
    exact agrees_ite (fun _ => hobject h hk) fun _ => agrees_pure h hk _

/-- The attribute for blanks is checked without reading on. -/
theorem agrees_checkSpace (a : WrittenAttribute) (h : c.Enclosed d) (hk : d.rest.length ≤ k) :
    Agrees c d k lead (checkSpace a) (checkSpace a) := by
  unfold checkSpace
  exact agrees_ite (fun _ => agrees_notice h hk) fun _ => agrees_pure h hk ()

/-- A name is resolved without reading on. -/
theorem agrees_resolve (scope : Scope) (isAttribute : Bool) (w : Written) (h : c.Enclosed d)
    (hk : d.rest.length ≤ k) :
    Agrees c d k lead (resolve scope isAttribute w) (resolve scope isAttribute w) := by
  unfold resolve
  split
  · exact agrees_pure h hk _
  · exact (agrees_object h hk).bind fun _ _ _ _ h hk => agrees_pure h hk _

/-- Names are compared without reading on. -/
theorem agrees_checkDistinct (seen ns : List Name) (h : c.Enclosed d) (hk : d.rest.length ≤ k) :
    Agrees c d k lead (checkDistinct seen ns) (checkDistinct seen ns) := by
  induction ns generalizing seen c d with
  | nil => exact agrees_pure h hk ()
  | cons n ns ih =>
    unfold checkDistinct
    split
    · exact ih _ h hk
    · exact agrees_ite_stop fun _ => (agrees_object h hk).bind fun _ _ _ _ h hk => ih _ h hk

/-- Identifiers are compared with those found so far, which are the same. -/
theorem agrees_checkIds (rules : List AttributeRule) (attributes : List (Written × Attribute))
    (h : c.Enclosed d) (hk : d.rest.length ≤ k) :
    Agrees c d k lead (checkIds rules attributes) (checkIds rules attributes) := by
  induction attributes generalizing c d with
  | nil => exact agrees_pure h hk ()
  | cons x attributes ih =>
    obtain ⟨w, a⟩ := x
    unfold checkIds
    refine agrees_ite_step h hk (agrees_object h hk) fun c d h hk => ?_
    refine agrees_ite (fun _ => agrees_ite (fun _ => ?_) fun _ => ih h hk) fun _ => ih h hk
    refine agrees_findings h fun hids => ?_
    rw [hids]
    refine agrees_ite (fun _ => (agrees_object h hk).bind fun _ _ _ _ h hk => ih h hk) fun _ => ?_
    refine (agrees_remember h hk fun g g' hg => ?_).bind fun _ _ _ _ h hk => ih h hk
    obtain ⟨hobjection, hnoticed, hids, hchecked⟩ := Findings.mk.inj hg
    exact Findings.mk.injEq .. ▸ ⟨hobjection, hnoticed, congrArg (· ++ [a.value]) hids, hchecked⟩

/-- At the end of the text there are no more attributes, but at a `<` there is a fault. -/
theorem agrees_attributesFrom_end (rules : List AttributeRule) (read : List WrittenAttribute)
    (declared : List Binding) {m n : Nat} (h : c.Enclosed d) (hd : d.rest = []) :
    Agrees c d k .alone (attributesFrom undeclared rules read declared (m + 1))
      (attributesFrom undeclared rules read declared (n + 1)) := by
  have hc : c.rest = closing := by rw [h.rest, hd, List.nil_append]
  have hname : Passes (written? undeclared.dialect) closing none closing :=
    Passes.bind (passes_peek.bind passes_pure) passes_pure
  have hstops : Stops (attributesFrom undeclared rules read declared (m + 1)) closing := by
    unfold attributesFrom
    exact passes_peek.bind_stops ((passes_looksAt "/>").bind_stops (passes_peek.bind_stops
      (hname.bind_stops stops_stop)))
  have hpasses : Passes (attributesFrom undeclared rules read declared (n + 1)) [] (read, declared)
      [] := by
    unfold attributesFrom
    exact passes_peek.bind ((passes_looksAt "/>").bind (passes_peek.bind passes_pure))
  obtain ⟨p, hp⟩ := hstops c hc
  obtain ⟨q, hq⟩ := hpasses d hd
  unfold Agrees
  rw [hp, hq]
  exact .alone rfl

/-- By induction on the fuel of one: the attributes of a start tag may end with the text alone,
where the enclosed text has a `<` that no attribute begins with. -/
theorem agrees_attributesFrom (rules : List AttributeRule) (read : List WrittenAttribute)
    (declared : List Binding) {m n : Nat} (h : c.Enclosed d) (hk : d.rest.length ≤ k) (hm : k < m)
    (hn : k < n) :
    Agrees c d k .alone (attributesFrom undeclared rules read declared m)
      (attributesFrom undeclared rules read declared n) := by
  induction m generalizing n read declared k c d with
  | zero => omega
  | succ m ih =>
    obtain ⟨n, rfl⟩ := Nat.exists_eq_add_one_of_ne_zero (Nat.ne_zero_of_lt hn)
    rcases Nat.eq_zero_or_pos d.rest.length with hd | hpos
    · exact agrees_attributesFrom_end rules read declared h (List.length_eq_zero_iff.mp hd)
    have hne : d.rest ≠ [] := List.ne_nil_of_length_pos hpos
    unfold attributesFrom
    refine agrees_peek h (fun hd => absurd hd hne) fun x cs _ => agrees_looked h (by decide)
      fun ends _ => agrees_peek h (fun hd => absurd hd hne) fun y _ _ => ?_
    refine agrees_ite (fun _ => agrees_pure h hk _) fun _ => ?_
    refine (agrees_written? _ h hk).bind fun name? _ _ _ h hk => ?_
    split
    · exact agrees_stop
    refine (agrees_blanks h hk).bind fun _ _ _ _ h hk => ?_
    have hless : "=".length = 1 := rfl
    refine (agrees_expect (k := k - 1) h (by decide) (by omega)).bind fun _ _ _ _ h hk => ?_
    refine (agrees_blanks h hk).bind fun _ _ _ _ h hk => ?_
    refine (agrees_attributeValue h hk).bind fun parts _ _ _ h hk => ?_
    refine agrees_ite_step h hk (agrees_checkSpace _ h hk) fun _ _ h hk => ?_
    refine Agrees.bind (l := k - 1) ?_ fun x c d _ h hk => ?_
    · refine agrees_ite (fun _ => ?_) fun _ => agrees_pure h hk _
      refine (agrees_declaration _ h hk).bind fun binding? _ _ _ h hk => ?_
      split
      · exact agrees_ite_stop fun _ => agrees_pure h hk _
      · exact agrees_pure h hk _
    · have hnext {c d : Cursor} (h : c.Enclosed d) (hk : d.rest.length ≤ k - 1) :
          Agrees c d k .alone (do spaced; attributesFrom undeclared rules x.1 x.2 m)
            (do spaced; attributesFrom undeclared rules x.1 x.2 n) :=
        (agrees_spaced h hk).bind fun _ _ _ _ h hk =>
          (ih x.1 x.2 h hk (by omega) (by omega)).mono (Nat.sub_le k 1)
      have hends : Agrees c d k .alone (pure x) (pure x) :=
        agrees_pure h (Nat.le_trans hk (Nat.sub_le k 1)) x
      refine agrees_peek h (fun _ => agrees_looked h (by decide) fun ends _ => ?_) fun y _ _ =>
        agrees_looked h (by decide) fun ends _ => agrees_ite (fun _ => hends) fun _ => hnext h hk
      -- Neither the `<` of the end tag nor the end of the text is the end of a start tag.
      cases ends with
      | true => exact hends
      | false => exact hnext h hk

/-- A start tag agrees up to its attributes, and what it makes of them needs no more reading. -/
theorem agrees_startTag (scope : Scope) (depth : Nat) (h : c.Enclosed d) (hpos : 1 ≤ d.rest.length)
    (hk : d.rest.length ≤ k + 1) :
    Agrees c d k .alone (startTag undeclared scope depth) (startTag undeclared scope depth) := by
  unfold startTag
  refine (agrees_skip (k := k) h hpos hk).bind fun _ _ _ _ h hk => ?_
  refine (agrees_written? _ h hk).bind fun name? _ _ _ h hk => ?_
  split
  · exact agrees_stop
  refine (agrees_blanks h hk).bind fun _ _ _ _ h hk => agrees_rest h fun hmore => ?_
  refine Agrees.bind_still ((agrees_attributesFrom _ _ _ h (Nat.le_refl _) (by omega)
    (by omega)).mono hk) fun x _ _ _ h hk => ?_
  refine agrees_ite (fun _ => ?_) fun hnot => absurd rfl hnot
  refine (agrees_mapM (fun a _ _ h hk => ?_) _ h hk).bind fun resolved _ _ _ h hk => ?_
  · exact (agrees_resolve _ _ _ h hk).bind fun _ _ _ _ h hk => agrees_pure h hk _
  refine (agrees_checkDistinct _ _ h hk).bind fun _ _ _ _ h hk => ?_
  refine (agrees_resolve _ _ _ h hk).bind fun _ _ _ _ h hk => agrees_ite_stop fun _ => ?_
  refine (agrees_checkIds _ _ h hk).bind fun _ _ _ _ h hk => ?_
  exact (agrees_line h hk).bind fun _ _ _ _ h hk => agrees_pure h hk _

/-! ### Names of elements -/

/-- A name holds no `<`, since that is no character of names. -/
theorem yields_name?_chars :
    Yields (fun n? => ∀ n, n? = some n → '<' ∉ n.toList) name? := by
  unfold name?
  refine yields_bind fun next => ?_
  split
  · refine yields_ite ?_ (yields_pure fun _ hn => by cases hn)
    refine (yields_takeWhile (q := isNameChar) fun _ hc => hc).bind fun cs hcs =>
      yields_pure fun n hn => ?_
    cases hn
    rw [String.toList_ofList]
    exact fun hmem => absurd (List.all_eq_true.mp hcs _ hmem) (by decide)
  · exact yields_pure fun _ hn => by cases hn

/-- No `<` is part of a name, with or without prefix. -/
theorem yields_written?_chars (dialect : Dialect) :
    Yields (fun w? => ∀ w, w? = some w → '<' ∉ w.text.toList) (written? dialect) := by
  unfold written?
  refine yields_name?_chars.bind fun n? hn => ?_
  cases n? with
  | none => exact yields_pure fun _ hw => nomatch hw
  | some whole =>
    have hwhole : ∀ w, some (⟨none, whole⟩ : Written) = some w → '<' ∉ w.text.toList := by
      rintro _ ⟨⟩
      exact hn whole rfl
    refine yields_ite (yields_pure hwhole) ?_
    -- What is on either side of a colon is a piece of the name.
    have hparts : ∀ part ∈ (Text.splitAt ':' whole.toList).map String.ofList,
        '<' ∉ part.toList := by
      intro part hpart hmem
      obtain ⟨piece, hpiece, rfl⟩ := List.mem_map.mp hpart
      rw [String.toList_ofList] at hmem
      exact hn whole rfl (Text.mem_of_mem_splitAt hpiece hmem)
    split
    · exact yields_pure hwhole
    · split
      · rename_i first second hboth _
        rw [hboth] at hparts
        refine yields_pure ?_
        rintro _ ⟨⟩
        have hfirst := hparts first List.mem_cons_self
        have hsecond := hparts second (List.mem_cons_of_mem _ List.mem_cons_self)
        simpa [Written.text, hfirst] using hsecond
      · exact yields_bind fun _ => yields_pure hwhole

/-- So the name of a start tag holds none either. -/
theorem yields_startTag_chars (g : Setting) (scope : Scope) (depth : Nat) :
    Yields (fun x => '<' ∉ x.1.text.toList) (startTag g scope depth) := by
  unfold startTag
  refine yields_bind fun _ => (yields_written?_chars _).bind fun name? hname => ?_
  split
  · exact yields_stop
  · rename_i name
    refine yields_bind fun _ => yields_bind fun _ => yields_bind fun _ => yields_ite ?_ ?_
    · refine yields_bind fun _ => yields_bind fun _ => yields_bind fun _ => yields_ite_stop ?_
      exact yields_bind fun _ => yields_bind fun _ => yields_pure (hname name rfl)
    · exact yields_bind fun _ => yields_bind fun _ => yields_pure (hname name rfl)

/-! ### What readers leave -/

/-- With `Q` true of what is to come, a reader leaves `P` true of it. -/
def Leaves (Q P : List Char → Prop) (r : Read α) : Prop :=
  ∀ ⦃c a c'⦄, Q c.rest → r c = .ok (a, c') → P c'.rest

section

variable {Q P : List Char → Prop}

/-- A result that is known beforehand leaves the text as it was, with all that follows for it. -/
theorem leaves_pure (h : ∀ cs, Q cs → P cs) (a : α) : Leaves Q P (pure a) := by
  intro c b c' hQ hrun
  cases hrun
  exact h c.rest hQ

/-- Where a reader stops, nothing is left to speak of. -/
theorem leaves_stop : Leaves Q P (stop : Read α) := fun _ _ _ _ hrun => nomatch hrun

/-- What the first part leaves is what the second one starts from. -/
theorem Leaves.bind {M : List Char → Prop} {r : Read α} {f : α → Read β} (hr : Leaves Q M r)
    (hf : ∀ a, Leaves M P (f a)) : Leaves Q P (r >>= f) := by
  intro c b c'' hQ hrun
  rw [bind_eq] at hrun
  cases hfirst : r c with
  | error e =>
    rw [hfirst] at hrun
    cases hrun
  | ok x =>
    rw [hfirst] at hrun
    exact hf x.1 (hr hQ hfirst) hrun

/-- If nothing is known in between, what is left depends on the second part alone. -/
theorem leaves_bind {r : Read α} {f : α → Read β} (hf : ∀ a, Leaves (fun _ => True) P (f a)) :
    Leaves Q P (r >>= f) :=
  Leaves.bind (fun _ _ _ _ _ => trivial) hf

/-- After a look at the next character it is known which one comes. -/
theorem leaves_peek {f : Option Char → Read α} (hf : ∀ x, Leaves (·.head? = x) P (f x)) :
    Leaves Q P (peek >>= f) :=
  fun _ _ _ _ hrun => hf _ rfl hrun

/-- After a look for a string it is known whether it comes. -/
theorem leaves_looksAt {s : String} {f : Bool → Read α}
    (hf : ∀ b, Leaves (s.toList.isPrefixOf · = b) P (f b)) : Leaves Q P (looksAt s >>= f) :=
  fun _ _ _ _ hrun => hf _ rfl hrun

/-- A look at the whole text leaves it. -/
theorem leaves_rest : Leaves Q Q rest := by
  rintro c a c' hQ ⟨⟩
  exact hQ

/-- A choice leaves what both of its branches do, and the first one may use the condition. -/
theorem leaves_ite {p : Prop} [Decidable p] {r s : Read α} (hr : p → Leaves Q P r)
    (hs : Leaves Q P s) : Leaves Q P (if p then r else s) := by
  split
  · exact hr ‹_›
  · exact hs

end

/-! ### Readers leave a part of what was to come -/

/-- A run of characters is taken off the front, so what is left is a suffix. -/
theorem leaves_suffix_takeWhile (p : Char → Bool) (cs : List Char) :
    Leaves (· <:+ cs) (· <:+ cs) (takeWhile p) := by
  intro c a c' hsuffix hrun
  rw [takeWhile, List.span_eq_takeWhile_dropWhile] at hrun
  cases hrun
  exact (List.dropWhile_suffix p).trans hsuffix

/-- A name is taken off the front. -/
theorem leaves_suffix_name? (cs : List Char) : Leaves (· <:+ cs) (· <:+ cs) name? := by
  unfold name?
  refine Leaves.bind (M := (· <:+ cs)) ?_ fun next => ?_
  · rintro c a c' hsuffix ⟨⟩
    exact hsuffix
  · split
    · refine leaves_ite (fun _ => ?_) (leaves_pure (fun _ h => h) none)
      exact (leaves_suffix_takeWhile _ cs).bind fun _ => leaves_pure (fun _ h => h) _
    · exact leaves_pure (fun _ h => h) none

/-- A name with a prefix is taken off the front. -/
theorem leaves_suffix_written? (dialect : Dialect) (cs : List Char) :
    Leaves (· <:+ cs) (· <:+ cs) (written? dialect) := by
  have hobject : Leaves (· <:+ cs) (· <:+ cs) object := by
    rintro c a c' hsuffix ⟨⟩
    exact hsuffix
  unfold written?
  refine (leaves_suffix_name? cs).bind fun n? => ?_
  split
  · exact leaves_pure (fun _ h => h) none
  · refine leaves_ite (fun _ => leaves_pure (fun _ h => h) _) ?_
    split
    · exact leaves_pure (fun _ h => h) _
    · split
      · exact leaves_pure (fun _ h => h) _
      · exact hobject.bind fun _ => leaves_pure (fun _ h => h) _

/-! ### End tags -/

/-- Whether a name ends with an end tag is the same, since neither the name nor what may stand
behind it has to do with a `<`. -/
theorem endsName_closing {due : List Char} (hdue : '<' ∉ due) {p : Char → Bool}
    (hp : p '<' = false) (cs : List Char) :
    (due.isPrefixOf (cs ++ closing) && ((cs ++ closing).drop due.length).head?.any p)
      = (due.isPrefixOf cs && (cs.drop due.length).head?.any p) := by
  rw [isPrefixOf_closing hdue]
  cases hprefix : due.isPrefixOf cs with
  | false => rfl
  | true =>
    have hlength := (List.isPrefixOf_iff_prefix.mp hprefix).length_le
    rw [List.drop_append_of_le_length hlength]
    cases cs.drop due.length with
    | nil => exact hp
    | cons => rfl

/-- An end tag in the text is read by both, as its name holds no `<`. -/
theorem agrees_endTag (dialect : Dialect) {name : Written} (hname : '<' ∉ name.text.toList)
    (h : c.Enclosed d) (hlength : 2 ≤ d.rest.length) (hk : d.rest.length ≤ k) :
    Agrees c d k lead (endTag dialect name) (endTag dialect name) := by
  unfold endTag
  refine (agrees_skip (k := k) h hlength (by omega)).bind fun _ c d _ h hk => ?_
  refine agrees_rest h fun _ => ?_
  rw [h.rest, endsName_closing hname rfl]
  refine Agrees.bind (l := k) (agrees_ite (fun hends => ?_) fun _ => ?_) fun same _ _ _ h hk => ?_
  · have hprefix := (List.isPrefixOf_iff_prefix.mp (Bool.and_eq_true_iff.mp hends).1).length_le
    exact (agrees_skipBytes h hprefix hk).bind fun _ _ _ _ h hk => agrees_pure h hk _
  · refine agrees_ite (fun _ => ?_) fun _ => ?_
    · exact (agrees_written? dialect h hk).bind fun _ _ _ _ h hk => agrees_pure h hk _
    · exact (agrees_name? h hk).bind fun _ _ _ _ h hk => agrees_pure h hk _
  refine (agrees_blanks h hk).bind fun _ _ _ _ h hk => ?_
  refine (agrees_expect h (by decide) (Nat.le_add_right_of_le hk)).bind fun _ _ _ _ h hk => ?_
  exact agrees_ite (fun _ => agrees_stop) fun _ => agrees_pure h hk ()

/-- If the end tag behind the text ends an element in it, nothing is left. -/
theorem leaves_endTag_closing (dialect : Dialect) (name : Written) :
    Leaves (· = closing) (· = []) (endTag dialect name) := by
  -- Behind its `</` only the last character of the tag is a `>`.
  have hend : ∀ cs ∈ (closing.drop 2).tails, ">".toList.isPrefixOf cs = true → cs.drop 1 = [] := by
    decide
  have hexpect : Leaves (· <:+ closing.drop 2) (· = []) (expect ">") := by
    intro c a c' hsuffix hrun
    change ((if ">".toList.isPrefixOf c.rest then skip ">".length else stop : Read Unit) c) = _
      at hrun
    split at hrun
    · cases hrun
      exact hend c.rest ((List.mem_tails _ _).mpr hsuffix) ‹_›
    · cases hrun
  have hopening : Leaves (· = closing) (· <:+ closing.drop 2) (skip 2) := by
    rintro c a c' hc ⟨⟩
    show c.rest.drop 2 <:+ closing.drop 2
    rw [hc]
  have hskipped (n : Nat) : Leaves (· <:+ closing.drop 2) (· <:+ closing.drop 2) (skipBytes n) := by
    rintro c a c' hc ⟨⟩
    exact (List.drop_suffix n c.rest).trans hc
  unfold endTag
  refine hopening.bind fun _ => leaves_rest.bind fun cs =>
    Leaves.bind (M := (· <:+ closing.drop 2)) (leaves_ite (fun _ => ?_) ?_) fun same => ?_
  · exact (hskipped _).bind fun _ => leaves_pure (fun _ h => h) _
  · refine leaves_ite (fun _ => ?_) ?_
    · exact (leaves_suffix_written? dialect _).bind fun _ => leaves_pure (fun _ h => h) _
    · exact (leaves_suffix_name? _).bind fun _ => leaves_pure (fun _ h => h) _
  refine Leaves.bind (M := (· <:+ closing.drop 2)) ?_ fun _ => hexpect.bind fun _ => ?_
  · unfold blanks
    exact (leaves_suffix_takeWhile _ _).bind fun _ => leaves_pure (fun _ h => h) _
  · exact leaves_ite (fun _ => leaves_stop) (leaves_pure (fun _ h => h) ())

/-! ### Content -/

/-- Content goes on to the end of the text or to an end tag. -/
theorem leaves_content (g : Setting) (scope : Scope) (depth : Nat) (read : List Node)
    (fuel : Nat) :
    Leaves (fun _ => True) (fun cs => cs = [] ∨ "</".toList.isPrefixOf cs = true)
      (content g scope depth read fuel) := by
  induction fuel generalizing read with
  | zero =>
    unfold content
    exact leaves_stop
  | succ fuel ih =>
    unfold content
    refine leaves_peek fun next => ?_
    split
    · -- At the end of the text.
      exact leaves_pure (fun cs hcs => .inl (List.head?_eq_none_iff.mp hcs)) _
    · refine leaves_looksAt fun ends => leaves_ite (fun hends => ?_) ?_
      · -- In front of an end tag.
        exact leaves_pure (fun cs hcs => .inr (hcs.trans hends)) _
      refine leaves_bind fun _ => leaves_bind fun _ => leaves_bind fun _ => ?_
      -- A comment, a section of characters, an instruction or an element: content goes on behind
      -- each.
      refine leaves_ite (fun _ => leaves_bind fun _ => ih _) ?_
      refine leaves_ite (fun _ => leaves_bind fun _ => ih _) ?_
      exact leaves_ite (fun _ => leaves_bind fun _ => ih _) (leaves_bind fun _ => ih _)
    · exact leaves_bind fun _ => ih _
    · exact leaves_bind fun _ => leaves_bind fun _ => ih _

/-- A reference in content agrees, since no entity is declared whose text would have to be read. -/
theorem agrees_contentReference (depth : Nat) {m n : Nat} (h : c.Enclosed d)
    (hpos : 1 ≤ d.rest.length) (hk : d.rest.length ≤ k + 1) :
    Agrees c d k lead (contentReference undeclared depth (m + 1))
      (contentReference undeclared depth (n + 1)) := by
  unfold contentReference
  refine (agrees_skip (k := k) h hpos hk).bind fun _ _ _ _ h hk => ?_
  refine agrees_peek_eq h (by decide) (fun cs hd => ?_) ?_
  · refine (agrees_skip h (by simp [hd]) (Nat.le_add_right_of_le hk)).bind fun _ _ _ _ h hk => ?_
    exact (agrees_characterReference h hk).bind fun _ _ _ _ h hk => agrees_pure h hk _
  · refine (agrees_entityName h hk).bind fun name _ _ _ h hk => ?_
    rw [show undeclared.entity? name = none from rfl]
    cases predefined? name with
    | some x => exact agrees_pure h hk _
    | none => exact agrees_ite_stop fun hforgives => absurd rfl hforgives

/-- Character data that is neither markup nor a reference at its start is not empty. -/
theorem agrees_characters_next (read : List Char) {x : Char} {cs : List Char}
    (hd : d.rest = x :: cs) (hmarkup : x ≠ '<') (hreference : x ≠ '&') (hk : cs.length ≤ k)
    {m n : Nat} (h : c.Enclosed d) (hm : k < m) (hn : k < n) :
    Agrees c d k lead (characters read (m + 1)) (characters read (n + 1)) := by
  have hlength : d.rest.length = cs.length + 1 := congrArg List.length hd
  unfold characters
  refine (agrees_takeWhile (k := k + 1) h (by omega) (by decide)).bind
    fun plain c' d' hrun h hl => ?_
  have hrest :
      d'.rest = d.rest.dropWhile fun c => c != '<' && c != '&' && c != ']' && isXmlChar c := by
    rw [takeWhile, List.span_eq_takeWhile_dropWhile] at hrun
    cases hrun
    rfl
  refine agrees_peek h (fun hd' => agrees_pure h (by simp [hd']) _) fun y ys hd' => ?_
  split
  · refine agrees_looksAt h (by decide) (fun _ => agrees_stop) ?_
    exact (agrees_skip h (by simp [hd']) hl).bind fun _ _ _ _ h hk =>
      agrees_characters _ h hk hm hn
  · rename_i _ heq
    cases heq
    refine agrees_ite (fun hend => agrees_pure h ?_ _) fun _ => agrees_stop
    -- The first character has been passed, since it is none of those at which the data ends.
    rw [hrest, hd, List.dropWhile_cons] at hd' ⊢
    split
    · exact Nat.le_trans (List.dropWhile_suffix _).length_le hk
    · rw [if_neg ‹_›] at hd'
      obtain ⟨rfl, -⟩ := List.cons.inj hd'
      rcases Bool.or_eq_true_iff.mp hend with hlt | hamp
      · exact absurd (eq_of_beq hlt) hmarkup
      · exact absurd (eq_of_beq hamp) hreference
  · rename_i heq
    cases heq

/-- Content and elements are read from an enclosed text as they are from the text alone, with fuel
enough for both. -/
structure ContentAgrees (m : Nat) : Prop where
  agrees_content : ∀ scope depth read {c d : Cursor} {k n : Nat}, c.Enclosed d →
    d.rest.length ≤ k → 2 * k < m → 2 * k < n →
    Agrees c d k .enclosed (content undeclared scope depth read m)
      (content undeclared scope depth read n)
  agrees_element : ∀ scope depth {c d : Cursor} {k n : Nat}, c.Enclosed d → 1 ≤ d.rest.length →
    d.rest.length ≤ k + 1 → 2 * k + 1 < m → 2 * k + 1 < n →
    Agrees c d k .enclosed (element undeclared scope depth m) (element undeclared scope depth n)

/-- At the end of the text nothing is read. -/
theorem content_end (g : Setting) (scope : Scope) (depth : Nat) (read : List Node) (fuel : Nat)
    (hc : c.rest = []) (q : Position) :
    SameOutcome k .enclosed (content g scope depth read fuel c) (.error q) := by
  cases fuel with
  | zero =>
    unfold content
    exact .fails _ q
  | succ fuel =>
    have hpasses : Passes (content g scope depth read (fuel + 1)) [] read.reverse [] := by
      unfold content
      exact passes_peek.bind passes_pure
    obtain ⟨p, hp⟩ := hpasses c hc
    rw [hp]
    exact .enclosed rfl

namespace ContentAgrees

variable {m n : Nat} (hc : ContentAgrees m) (scope : Scope) (depth : Nat)
include hc

/-- With one more round for content: at the end of the text alone there is nothing for one and an
end tag for the other, which ends the content of both. -/
theorem content_succ (read : List Node) (h : c.Enclosed d) (hk : d.rest.length ≤ k)
    (hm : 2 * k < m + 1) (hn : 2 * k < n + 1) :
    Agrees c d k .enclosed (content undeclared scope depth read (m + 1))
      (content undeclared scope depth read (n + 1)) := by
  unfold content
  refine agrees_peek h (fun hd => ?_) fun x cs hd => ?_
  · -- The end tag that was put behind the text ends its content.
    have hends : "</".toList.isPrefixOf c.rest = true := by
      rw [h.rest, hd]
      rfl
    show SameOutcome k .enclosed ((if "</".toList.isPrefixOf c.rest then _ else _ : Read _) c) _
    rw [if_pos hends]
    exact .succeeds h hk
  have hlength : d.rest.length = cs.length + 1 := congrArg List.length hd
  -- Whatever the next node is, at least one character has been read for it. So the rest is shorter,
  -- and the induction hypothesis in `hc` says what becomes of it.
  have hnext {node : Node} {c d : Cursor} (h : c.Enclosed d) (hl : d.rest.length ≤ k - 1) :
      Agrees c d k .enclosed (content undeclared scope depth (pushNode read node) m)
        (content undeclared scope depth (pushNode read node) n) :=
    (hc.agrees_content scope depth _ h hl (by omega) (by omega)).mono (Nat.sub_le k 1)
  split
  · exact agrees_pure h hk _
  · have hend : "</".toList.isPrefixOf c.rest = "</".toList.isPrefixOf d.rest := by
      rw [h.rest]
      exact isPrefixOf_closing_of_tail (by decide) fun hnil => by rw [hd] at hnil; cases hnil
    refine agrees_looked_of_eq hend fun _ _ => agrees_ite (fun _ => agrees_pure h hk _) fun _ => ?_
    refine agrees_looked h (by decide) fun _ hinstruction => agrees_looked h (by decide)
      fun _ hliteral => agrees_looked h (by decide) fun _ hcomment => ?_
    refine agrees_ite (fun hb => ?_) fun _ => agrees_ite (fun hb => ?_) fun _ =>
      agrees_ite (fun hb => ?_) fun _ => ?_
    · exact (agrees_instruction (k := k - 1) _ h (hinstruction hb) (by omega)).bind
        fun _ _ _ _ h hl => hnext h hl
    · exact (agrees_literal (k := k - 1) h (hliteral hb) (by omega)).bind
        fun _ _ _ _ h hl => hnext h hl
    · exact (agrees_comment (k := k - 1) h (hcomment hb) (by omega)).bind
        fun _ _ _ _ h hl => hnext h hl
    · exact (hc.agrees_element (k := k - 1) scope depth h (by omega) (by omega) (by omega)
        (by omega)).bind_enclosed (fun _ _ _ _ h hl => hnext h hl)
        fun _ _ q hc => content_end _ _ _ _ _ hc q
  · obtain ⟨m, rfl⟩ := Nat.exists_eq_add_one_of_ne_zero (n := m) (by omega)
    obtain ⟨n, rfl⟩ := Nat.exists_eq_add_one_of_ne_zero (n := n) (by omega)
    exact (agrees_contentReference (k := k - 1) depth h (by omega) (by omega)).bind
      fun _ _ _ _ h hl => hnext h hl
  · rename_i y hmarkup hreference heq
    cases heq
    refine agrees_rest h fun hmore => Agrees.bind (l := k - 1) ?_ fun _ _ _ _ h hl => hnext h hl
    exact (agrees_characters_next [] hd hmarkup hreference (Nat.le_refl _) h (by omega)
      (by omega)).mono (by omega)

/-- With one more round for an element: its start tag may lead in the text alone, which stops before
the `>`, and its end tag in the enclosed text, behind which there is nothing. -/
theorem element_succ (h : c.Enclosed d) (hpos : 1 ≤ d.rest.length) (hk : d.rest.length ≤ k + 1)
    (hm : 2 * k + 1 < m + 1) (hn : 2 * k + 1 < n + 1) :
    Agrees c d k .enclosed (element undeclared scope depth (m + 1))
      (element undeclared scope depth (n + 1)) := by
  unfold element
  refine (agrees_startTag scope depth h hpos hk).bind_alone (fun x c d hrun h hk => ?_)
    fun x p d hd => ?_
  · refine agrees_ends h (by decide) (by decide) hk ?_
    refine (agrees_expect h (by decide) (Nat.le_add_right_of_le hk)).bind fun _ c d _ h hk => ?_
    refine (hc.agrees_content _ _ _ h hk (by omega) (by omega)).bind_enclosed
      (fun ns c d hcontent h hk => ?_) fun ns c q hc => ?_
    · refine agrees_peek h (fun hd => ?_) fun y cs hd => agrees_ite_stop fun _ => ?_
      · have hclosing : c.rest = closing := by rw [h.rest, hd, List.nil_append]
        -- Nothing but the added end tag is left. If it ends this element, the element around is not
        -- ended.
        have hleft := leaves_endTag_closing undeclared.dialect x.1
        show SameOutcome k .enclosed
          (endTag undeclared.dialect x.1 c >>= fun y => .ok (Node.element x.2 ns, y.2)) (.error _)
        cases hend : endTag undeclared.dialect x.1 c with
        | error p => exact .fails p _
        | ok y => exact .enclosed (hleft hclosing hend)
      · have hlength : 2 ≤ d.rest.length := by
          rcases leaves_content _ _ _ _ _ trivial hcontent with hnil | hends
          · rw [hnil] at hd
            cases hd
          · exact (List.isPrefixOf_iff_prefix.mp hends).length_le
        exact (agrees_endTag _ (yields_startTag_chars _ _ _ hrun) h hlength hk).bind
          fun _ _ _ _ h hk => agrees_pure h hk _
    · -- Nothing is left to end this element.
      exact .of_stops (passes_peek.bind_stops stops_stop.bind) hc q
  · -- The start tag is not complete.
    have hexpect : Stops (expect ">") [] := (passes_looksAt ">").bind_stops stops_stop
    exact .of_stops' ((passes_looksAt "/>").bind_stops hexpect.bind) hd p

end ContentAgrees

/-- Content and elements are read by each other, with less fuel each time. -/
theorem contentAgrees (m : Nat) : ContentAgrees m := by
  induction m with
  | zero => exact ⟨fun _ _ _ _ _ _ _ _ _ hm => by omega, fun _ _ _ _ _ _ _ _ _ hm => by omega⟩
  | succ m ih =>
    refine ⟨fun scope depth read c d k n h hk hm hn => ?_,
      fun scope depth c d k n h hpos hk hm hn => ?_⟩
    · obtain ⟨n, rfl⟩ := Nat.exists_eq_add_one_of_ne_zero (Nat.ne_zero_of_lt hn)
      exact ih.content_succ scope depth read h hk hm hn
    · obtain ⟨n, rfl⟩ := Nat.exists_eq_add_one_of_ne_zero (Nat.ne_zero_of_lt hn)
      exact ih.element_succ scope depth h hpos hk hm hn

end

end AttrTemplates.Xml.Read
