import AttrTemplates.Proofs.Xml.Scoped
import AttrTemplates.Xml.Legal
import Mathlib.Data.List.TakeDrop
import Mathlib.Data.List.TakeWhile

/-!
# `AttrTemplates.Proofs.Xml.Reader`: what can be relied on in trees that were read

A tree that was read is *scoped*: a start tag resolves its name by the declarations in force. Its
texts are *legal*: the reader stops at a character that a document may not hold, and a reference
to such a character is a fault as well. A node with both is *sound*.

* `Source.isSound_root` says that the root of every document that was read is sound;
* `Node.IsSound.inner` passes that on to the places below, where the scope is coherent then.

The reader is a parser in a state monad. `Read.Yields P r` says that `r` has a result with `P`
whenever it has one. There is a lemma for sequences of readers, and the state is never looked at.
`Read.carried_root` is the induction over the readers of content and elements, for any property of
nodes that goes from children to their element (`Read.Carried`), with what is known of the setting by
then (`Read.Established`).
-/

set_option autoImplicit false

namespace AttrTemplates.Xml

/-! ### Legal texts -/

/-- A text has no halves of surrogate pairs if none of its characters is one. -/
theorem firstHalves?_eq_none_iff {s : String} :
    Text.firstHalves? s = none ↔ ∀ c ∈ s.toList, (Text.half? c).isNone = true := by
  rw [← List.dropWhile_eq_nil_iff]
  unfold Text.firstHalves?
  rw [List.span_eq_takeWhile_dropWhile]
  cases s.toList.dropWhile fun c => (Text.half? c).isNone with
  | nil => exact ⟨fun _ => rfl, fun _ => rfl⟩
  | cons c cs => exact ⟨(fun h => nomatch h), (fun h => nomatch h)⟩

/-- Below the planes in which halves are held, a document may hold nearly all characters that are no
controls. -/
theorem isXmlChar_of_le {c : Char} (hlow : 0x20 ≤ c.toNat) (hhigh : c.toNat ≤ 0xEFFFF)
    (hmarks : c.toNat ≠ 0xFFFE ∧ c.toNat ≠ 0xFFFF) : isXmlChar c = true := by
  have hhalf : (Text.half? c).isNone = true := by
    unfold Text.half? Text.halfPlane
    rw [if_neg]
    · rfl
    · simp only [Bool.and_eq_true, decide_eq_true_eq]
      omega
  unfold isXmlChar
  simp only [hhalf, Bool.and_true, Bool.or_eq_true, Bool.and_eq_true, decide_eq_true_eq, beq_iff_eq]
  omega

/-- No half of a character is one that a document may hold. -/
theorem half?_isNone_of_isXmlChar {c : Char} (h : isXmlChar c = true) :
    (Text.half? c).isNone = true := by
  unfold isXmlChar at h
  unfold Text.half? at *
  split
  · rename_i hhalf
    rw [if_pos hhalf] at h
    unfold Text.halfPlane at hhalf
    simp only [Option.isNone_some, Bool.and_false, Bool.or_false, Bool.or_eq_true, beq_iff_eq,
      Bool.and_eq_true, decide_eq_true_eq] at h hhalf
    omega
  · rfl

/-- A text is let pass just when a document may hold all its characters. -/
theorem checkText_eq_ok_iff {s : String} : checkText s = .ok () ↔ isLegalText s = true := by
  unfold checkText
  constructor
  · intro h
    split at h
    · cases h
    · split at h
      · assumption
      · cases h
  · intro h
    have hnone : Text.firstHalves? s = none :=
      firstHalves?_eq_none_iff.mpr fun c hc =>
        half?_isNone_of_isXmlChar (List.all_eq_true.mp h c hc)
    rw [hnone, h]
    rfl

/-- A text is legal if its pieces are. -/
theorem isLegalText_append (s t : String) :
    isLegalText (s ++ t) = (isLegalText s && isLegalText t) := by
  unfold isLegalText
  rw [String.toList_append, List.all_append]

/-- A text is legal if its characters are. -/
theorem isLegalText_ofList (cs : List Char) : isLegalText (String.ofList cs) = cs.all isXmlChar := by
  rw [isLegalText, String.toList_ofList]

/-! ### Nodes -/

mutual

/-- Whether a document may hold all texts in a node. -/
def Node.isLegal : Node → Bool
  | .text s => isLegalText s
  | .element _ children => areLegal children
  | _ => true

/-- Whether a document may hold all texts in nodes. -/
def areLegal : List Node → Bool
  | [] => true
  | n :: ns => n.isLegal && areLegal ns

end

/-- A node has names and texts that can be relied on. -/
structure Node.IsSound (scope : Scope) (n : Node) : Prop where
  isScoped : n.isScoped scope = true
  isLegal : n.isLegal = true

/-- A legal text is sound in every scope, since it has no names. -/
theorem Node.isSound_text {scope : Scope} {s : String} (h : isLegalText s = true) :
    (Node.text s).IsSound scope :=
  ⟨rfl, h⟩

/-- Nodes are sound if they are scoped and legal. -/
theorem areSound_iff {scope : Scope} {ns : List Node} :
    (∀ n ∈ ns, n.IsSound scope) ↔ areScoped scope ns = true ∧ areLegal ns = true := by
  induction ns with
  | nil => exact ⟨fun _ => ⟨rfl, rfl⟩, fun _ _ hn => nomatch hn⟩
  | cons n ns ih =>
    rw [List.forall_mem_cons, ih, areScoped, areLegal, Bool.and_eq_true_iff, Bool.and_eq_true_iff]
    constructor
    · rintro ⟨hn, hscoped, hlegal⟩
      exact ⟨⟨hn.isScoped, hscoped⟩, hn.isLegal, hlegal⟩
    · rintro ⟨⟨hscoped, hnsscoped⟩, hlegal, hnslegal⟩
      exact ⟨⟨hscoped, hlegal⟩, hnsscoped, hnslegal⟩

/-- The children of an element can be relied on in the scope that the element makes for them. -/
theorem Node.isSound_element_iff {scope : Scope} {tag : Tag} {children : List Node} :
    (Node.element tag children).IsSound scope ↔
      tag.frame.isScoped scope = true ∧ ∀ n ∈ children, n.IsSound (tag.frame :: scope) := by
  rw [areSound_iff]
  constructor
  · rintro ⟨hscoped, hlegal⟩
    obtain ⟨htag, hchildren⟩ := Bool.and_eq_true_iff.mp hscoped
    exact ⟨htag, hchildren, hlegal⟩
  · rintro ⟨htag, hscoped, hlegal⟩
    exact ⟨Bool.and_eq_true_iff.mpr ⟨htag, hscoped⟩, hlegal⟩

/-- So it is at every place of a document, from its root down. -/
theorem Node.IsSound.inner {scope : Scope} {tag : Tag} {children : List Node}
    (h : (Node.element tag children).IsSound scope) (hscope : scope.Coherent) :
    Scope.Coherent (tag.frame :: scope) ∧ ∀ n ∈ children, n.IsSound (tag.frame :: scope) :=
  have ⟨htag, hchildren⟩ := Node.isSound_element_iff.mp h
  ⟨⟨htag, hscope⟩, hchildren⟩

namespace Read

/-! ### Results of readers -/

section

variable {α β : Type} {P : α → Prop} {Q : β → Prop}

/-- The result of a reader has a property, whenever there is one. -/
def Yields (P : α → Prop) (r : Read α) : Prop :=
  ∀ ⦃c a c'⦄, r c = .ok (a, c') → P a

/-- A result that has the property is yielded. -/
theorem yields_pure {a : α} (h : P a) : Yields P (pure a) := by
  intro c b c' hr
  cases hr
  exact h

/-- There is no result that could lack the property. -/
theorem yields_stop : Yields P stop := fun _ _ _ hr => nomatch hr

/-- What the second part yields may depend on what is known of the first one's result. -/
theorem Yields.bind {r : Read α} {f : α → Read β} (hr : Yields P r)
    (hf : ∀ a, P a → Yields Q (f a)) : Yields Q (r >>= f) := by
  intro c b c'' hrun
  change (r c >>= fun x => f x.1 x.2) = .ok (b, c'') at hrun
  cases hfirst : r c with
  | error e =>
    rw [hfirst] at hrun
    cases hrun
  | ok x =>
    rw [hfirst] at hrun
    exact hf x.1 (hr hfirst) hrun

/-- Nothing has to be known of what comes first. -/
theorem yields_bind {r : Read α} {f : α → Read β} (hf : ∀ a, Yields Q (f a)) :
    Yields Q (r >>= f) :=
  Yields.bind (P := fun _ => True) (fun _ _ _ _ => trivial) fun a _ => hf a

/-- A choice yields what both of its branches do. -/
theorem yields_ite {c : Prop} [Decidable c] {r r' : Read α} (hr : Yields P r)
    (hr' : Yields P r') : Yields P (if c then r else r') := by
  split
  · exact hr
  · exact hr'

/-- A check that stops does not get in the way of what follows. -/
theorem yields_ite_stop {c : Prop} [Decidable c] {f : Unit → Read α} (hf : Yields P (f ())) :
    Yields P (if c then (do let x ← stop; f x) else f ()) :=
  yields_ite (yields_stop.bind (P := fun _ => False) fun _ h => h.elim) hf

end

/-! ### Texts -/

/-- A run of characters with one property has every property that follows from it. -/
theorem yields_takeWhile {p q : Char → Bool} (h : ∀ c, p c = true → q c = true) :
    Yields (fun cs => cs.all q = true) (takeWhile p) := by
  intro c cs c' hr
  obtain rfl : (c.rest.span p).1 = cs := by
    cases hr
    rfl
  rw [List.span_eq_takeWhile_dropWhile, List.all_eq_true]
  exact fun x hx => h x (List.mem_takeWhile_imp hx)

/-- Characters that were taken over join those that were taken over before. -/
theorem all_append_of_all {cs ds : List Char} (hcs : cs.all isXmlChar = true)
    (hds : ds.all isXmlChar = true) : (cs ++ ds).all isXmlChar = true := by
  rw [List.all_append, hcs, hds]
  rfl

/-- Every round adds characters that were let pass. -/
theorem yields_characters (fuel : Nat) {read : List Char} (hread : read.all isXmlChar = true) :
    Yields (fun cs => cs.all isXmlChar = true) (characters read fuel) := by
  induction fuel generalizing read with
  | zero => exact yields_stop
  | succ fuel ih =>
    unfold characters
    refine (yields_takeWhile fun c hc => (Bool.and_eq_true_iff.mp hc).2).bind fun plain hplain => ?_
    have hall := all_append_of_all hread hplain
    refine yields_bind fun next => ?_
    split
    · exact yields_bind fun _ => yields_ite_stop
        (yields_bind fun _ => ih (all_append_of_all hall rfl))
    · exact yields_ite (yields_pure hall) yields_stop
    · exact yields_pure hall

/-- Every round adds characters that were let pass, up to the end mark. -/
theorem yields_literalFrom (fuel : Nat) {read : List Char} (hread : read.all isXmlChar = true) :
    Yields (fun cs => cs.all isXmlChar = true) (literalFrom read fuel) := by
  induction fuel generalizing read with
  | zero => exact yields_stop
  | succ fuel ih =>
    unfold literalFrom
    refine (yields_takeWhile fun c hc => (Bool.and_eq_true_iff.mp hc).2).bind fun plain hplain => ?_
    have hall := all_append_of_all hread hplain
    refine yields_bind fun closed => yields_ite (yields_bind fun _ => yields_pure hall) ?_
    refine yields_bind fun next => yields_ite (yields_bind fun _ => ?_) yields_stop
    exact ih (all_append_of_all hall rfl)

/-- Line ends are made one character, which is legal. -/
theorem all_normalLineEnds {cs : List Char} (h : cs.all isXmlChar = true) :
    (normalLineEnds cs).all isXmlChar = true := by
  fun_induction normalLineEnds cs with
  | case1 cs ih =>
    rw [List.all_cons, List.all_cons, Bool.and_eq_true_iff, Bool.and_eq_true_iff] at h
    rw [List.all_cons, ih h.2.2]
    rfl
  | case2 cs _ ih =>
    rw [List.all_cons, Bool.and_eq_true_iff] at h
    rw [List.all_cons, ih h.2]
    rfl
  | case3 c cs _ _ ih =>
    rw [List.all_cons, Bool.and_eq_true_iff] at h
    rw [List.all_cons, h.1, ih h.2]
    rfl
  | case4 => rfl

/-- The text of legal characters is legal once its line ends are. -/
theorem isLegalText_of_all {cs : List Char} (h : cs.all isXmlChar = true) :
    isLegalText (String.ofList (normalLineEnds cs)) = true :=
  (isLegalText_ofList _).trans (all_normalLineEnds h)

/-- A character reference is turned down unless it stands for a legal character. -/
theorem yields_characterReference : Yields (fun c => isXmlChar c = true) characterReference := by
  unfold characterReference
  refine yields_bind fun base => yields_bind fun digits => yields_bind fun next => ?_
  refine yields_ite_stop (yields_bind fun _ => ?_)
  -- The code is checked before the character is taken over.
  dsimp only
  split
  · rename_i hvalid
    exact yields_pure (Bool.and_eq_true_iff.mp (Bool.and_eq_true_iff.mp hvalid).1).2
  · exact yields_stop

/-- The five predefined references stand for legal characters. -/
theorem isXmlChar_of_predefined? {name : String} {c : Char} (h : predefined? name = some c) :
    isXmlChar c = true := by
  unfold predefined? at h
  split at h <;> cases h <;> rfl

/-- A legal character is a legal text. -/
theorem isLegalText_singleton {c : Char} (h : isXmlChar c = true) :
    isLegalText (String.singleton c) = true := by
  unfold isLegalText
  rw [String.toList_singleton, List.all_cons, h]
  rfl

/-! ### Nodes -/

/-- A property `G` of settings that they have when the reader comes to the root of a document: it
holds without a document type, and a document type keeps it. -/
structure Established (G : Setting → Prop) : Prop where
  initial : ∀ (d : Dialect) (standalone : Bool), G { dialect := d, standalone }
  doctype : ∀ {g}, G g → Yields (fun x => G x.2) (doctype g)

/-- Nothing needs to be known of settings. -/
theorem established_true : Established fun _ => True where
  initial _ _ := trivial
  doctype _ := fun _ _ _ _ => trivial

/-- A property `P` of the nodes in a scope that the reader establishes, if start tags have the
property `T` there: legal texts have it, everything else without children has it, and an element has
it if its children have it in the scope that the element makes for them. -/
structure Carried (T : Scope → Tag → Prop) (P : Scope → Node → Prop) : Prop where
  text : ∀ {scope s}, isLegalText s = true → P scope (.text s)
  joined : ∀ {scope s t}, P scope (.text s) → P scope (.text t) → P scope (.text (s ++ t))
  comment : ∀ {scope s line}, P scope (.comment s line)
  instruction : ∀ {scope target s line}, P scope (.instruction target s line)
  reference : ∀ {scope n}, P scope (.reference n)
  element : ∀ {scope tag children}, T scope tag → (∀ n ∈ children, P (tag.frame :: scope) n) →
    P scope (.element tag children)

section

variable {T : Scope → Tag → Prop} {P : Scope → Node → Prop} (hP : Carried T P) {scope : Scope}
  {G : Setting → Prop} {g : Setting}
include hP

/-- A comment has the property wherever it stands. -/
theorem yields_comment : Yields (P scope) comment := by
  unfold comment
  exact yields_bind fun _ => yields_bind fun _ => yields_pure hP.comment

/-- An instruction has the property wherever it stands. -/
theorem yields_instruction : Yields (P scope) (instruction g.dialect) := by
  unfold instruction
  exact yields_bind fun _ => yields_bind fun _ => yields_pure hP.instruction

/-- A section of literal text is legal text. -/
theorem yields_literal : Yields (P scope) literal := by
  unfold literal
  refine yields_bind fun _ => yields_bind fun _ => ?_
  exact (yields_literalFrom _ rfl).bind fun _ hcs => yields_pure (hP.text (isLegalText_of_all hcs))

/-- The text of an entity is looked into only to see that it is content. What the reference leaves
is the reference. -/
theorem yields_contentReference (depth fuel : Nat) :
    Yields (P scope) (contentReference g depth fuel) := by
  cases fuel with
  | zero => exact yields_stop
  | succ fuel =>
    unfold contentReference
    refine yields_bind fun _ => yields_bind fun _ => yields_ite (yields_bind fun _ => ?_) ?_
    · exact yields_characterReference.bind fun c hc =>
        yields_pure (hP.text (isLegalText_singleton hc))
    · refine yields_bind fun n => ?_
      split
      · rename_i hpredefined
        exact yields_pure
          (hP.text (isLegalText_singleton (isXmlChar_of_predefined? hpredefined)))
      · refine yields_ite_stop (yields_bind fun _ => yields_ite ?_ (yields_pure hP.reference))
        exact yields_ite_stop (yields_bind fun _ => yields_bind fun _ => yields_pure hP.reference)
      · exact yields_pure hP.reference
      · exact yields_stop
      · exact yields_ite_stop (yields_bind fun _ => yields_pure hP.reference)

/-- A node that is pushed to the ones before it has the property, also if it is joined to a text. -/
theorem carried_pushNode {read : List Node} (hread : ∀ n ∈ read, P scope n) {n : Node}
    (hn : P scope n) : ∀ m ∈ pushNode read n, P scope m := by
  unfold pushNode
  split
  · obtain ⟨hs, hread⟩ := List.forall_mem_cons.mp hread
    exact List.forall_mem_cons.mpr ⟨hP.joined hs hn, hread⟩
  · exact List.forall_mem_cons.mpr ⟨hn, hread⟩

variable (hstart : ∀ g, G g → ∀ scope depth,
  Yields (fun x => T scope x.2) (startTag g scope depth))
include hstart

/-- Content and elements are read by each other, with less fuel each time. -/
theorem yields_content_and_element (hg : G g) (fuel : Nat) :
    (∀ scope depth read, (∀ n ∈ read, P scope n) →
      Yields (fun ns => ∀ n ∈ ns, P scope n) (content g scope depth read fuel)) ∧
    (∀ scope depth, Yields (P scope) (element g scope depth fuel)) := by
  -- By induction on the fuel, for both at once. What has been read so far is carried along.
  induction fuel with
  | zero =>
    refine ⟨fun scope depth read _ => ?_, fun scope depth => ?_⟩
    · unfold content
      exact yields_stop
    · unfold element
      exact yields_stop
  | succ fuel ih =>
    obtain ⟨hcontent, helement⟩ := ih
    refine ⟨fun scope depth read hread => ?_, fun scope depth => ?_⟩
    · have hread' : ∀ n ∈ read.reverse, P scope n :=
        fun n hn => hread n (List.mem_reverse.mp hn)
      have hpush : ∀ n : Node, P scope n →
          Yields (fun ns => ∀ n ∈ ns, P scope n)
            (content g scope depth (pushNode read n) fuel) :=
        fun n hn => hcontent _ _ _ (carried_pushNode hP hread hn)
      unfold content
      refine yields_bind fun next => ?_
      split
      · exact yields_pure hread'
      · refine yields_bind fun _ => yields_ite (yields_pure hread') ?_
        refine yields_bind fun _ => yields_bind fun _ => yields_bind fun _ => ?_
        refine yields_ite ((yields_instruction hP).bind hpush) ?_
        refine yields_ite ((yields_literal hP).bind hpush) ?_
        exact yields_ite ((yields_comment hP).bind hpush) ((helement _ _).bind hpush)
      · exact (yields_contentReference hP _ _).bind hpush
      · exact yields_bind fun _ => (yields_characters _ rfl).bind fun _ hcs =>
          hpush _ (hP.text (isLegalText_of_all hcs))
    · unfold element
      refine (hstart g hg scope depth).bind fun start hstart => yields_bind fun _ => yields_ite ?_ ?_
      · exact yields_bind fun _ => yields_pure (hP.element hstart fun _ hn => nomatch hn)
      · refine yields_bind fun _ => ?_
        refine (hcontent _ _ [] fun _ hn => nomatch hn).bind fun children hchildren => ?_
        refine yields_bind fun _ => yields_ite_stop (yields_bind fun _ => yields_pure ?_)
        exact hP.element hstart hchildren

/-! ### Documents -/

variable (hG : Established G)
include hG

/-- The root of a document is an element that is read outside of all others. -/
theorem yields_documentFrom (d : Dialect) (version : String) (standalone : Bool) :
    Yields (fun document => P [] document.root) (documentFrom d version standalone) := by
  unfold documentFrom
  refine yields_bind fun _ => yields_bind fun _ => ?_
  refine Yields.bind (P := fun x => G x.2.1) ?_ fun x hx => ?_
  · refine yields_bind fun _ => yields_ite ?_ (yields_pure (hG.initial d standalone))
    exact (hG.doctype (hG.initial d standalone)).bind fun x hx =>
      yields_bind fun _ => yields_pure hx
  obtain ⟨doctype?, g, heading⟩ := x
  refine yields_bind fun _ => yields_ite_stop ?_
  refine ((yields_content_and_element hP hstart hx _).2 _ _).bind fun root hroot =>
    yields_bind fun _ => ?_
  refine yields_bind fun _ => yields_ite_stop ?_
  exact yields_pure hroot

/-- A whole document is read by the reader for one version or another, and its root has the
property. -/
theorem carried_root_of_wholeDocument {d : Dialect} {cs : List Char} {document : Document}
    (h : wholeDocument d cs = .ok document) : P [] document.root := by
  have hyields : Yields (fun document => P [] document.root) (Read.document d) := by
    unfold Read.document
    exact yields_bind fun _ => yields_documentFrom hP hstart hG _ _ _
  unfold wholeDocument all at h
  cases hread : Read.document d (Cursor.start cs) with
  | error p =>
    rw [hread] at h
    cases h
  | ok x =>
    rw [hread] at h
    dsimp only [bind, Except.bind, pure, Except.pure] at h
    -- A verdict on the whole document takes it or leaves it.
    split at h
    · split at h
      · cases h
      · cases h
        exact hyields hread
    · cases h
      exact hyields hread

/-- The root of a document that was read has every property that the reader establishes. -/
theorem carried_root {d : Dialect} {source : Source} {document : Document}
    (h : source.read d = .ok document) : P [] document.root := by
  unfold Source.read at h
  split at h
  · split at h
    · cases h
    · exact carried_root_of_wholeDocument hP hstart hG h
  · rename_i bs
    cases hcs : charactersOf bs with
    | error p =>
      rw [hcs] at h
      cases h
    | ok cs =>
      rw [hcs] at h
      exact carried_root_of_wholeDocument hP hstart hG h

end

/-! ### Names in force -/

section

variable {scope : Scope} {g : Setting}

/-- The name of an element has the meaning that the declarations give to its prefix. -/
theorem isScoped_of_resolve? {declarations : List Binding} {isAttribute : Bool} {w : Written}
    {n : Name} (h : resolve? (⟨declarations, none⟩ :: scope) isAttribute w = some n) :
    Frame.isScoped scope ⟨declarations, n.binding⟩ = true := by
  -- The own name of a frame is no declaration.
  have huri : ∀ own p, Scope.uri? (⟨declarations, own⟩ :: scope) p
      = Scope.uri? (⟨declarations, none⟩ :: scope) p := fun _ _ => rfl
  unfold resolve? at h
  unfold Frame.isScoped
  split at h
  · cases h
    rfl
  · obtain ⟨uri, huri', rfl⟩ := Option.map_eq_some_iff.mp h
    dsimp only
    rw [huri, huri', beq_self_eq_true, Bool.or_true]
  · split at h
    · cases h
      rfl
    · split at h
      · rename_i uri huri'
        cases h
        split
        · rfl
        · rename_i b hb
          split at hb
          · cases hb
          · cases hb
            rw [huri, huri', beq_self_eq_true, Bool.or_true]
      · cases h
        rfl

/-- A name is resolved by the declarations in force, so it is one of them or has no prefix. -/
theorem yields_resolve (declarations : List Binding) (isAttribute : Bool) (w : Written) :
    Yields (fun x => Frame.isScoped scope ⟨declarations, x.1.binding⟩ = true)
      (resolve (⟨declarations, none⟩ :: scope) isAttribute w) := by
  unfold resolve
  split
  · rename_i h
    exact yields_pure (isScoped_of_resolve? h)
  · exact yields_bind fun _ => yields_pure rfl

/-- A start tag resolves its own name by its declarations and the scope around it. -/
theorem yields_startTag (depth : Nat) :
    Yields (fun x => x.2.frame.isScoped scope = true) (startTag g scope depth) := by
  unfold startTag
  refine yields_bind fun _ => yields_bind fun name => ?_
  split
  · exact yields_stop
  · refine yields_bind fun _ => yields_bind fun _ => yields_bind fun read => yields_ite ?_ ?_
    · -- Whatever the attributes are, the name of the tag is resolved.
      refine yields_bind fun resolved => yields_bind fun _ => ?_
      refine (yields_resolve _ _ _).bind fun x hx => yields_ite_stop ?_
      exact yields_bind fun _ => yields_bind fun _ => yields_pure hx
    · exact yields_bind fun _ => yields_bind fun _ => yields_pure rfl

end

/-- Soundness goes from children to their element. -/
theorem carried_isSound :
    Carried (fun scope tag => tag.frame.isScoped scope = true) fun scope n => n.IsSound scope where
  text := Node.isSound_text
  joined hs ht := Node.isSound_text <| by
    rw [isLegalText_append, Bool.and_eq_true_iff]
    exact ⟨hs.isLegal, ht.isLegal⟩
  comment := ⟨rfl, rfl⟩
  instruction := ⟨rfl, rfl⟩
  reference := ⟨rfl, rfl⟩
  element htag hchildren := Node.isSound_element_iff.mpr ⟨htag, hchildren⟩

end Read

/-- The root of a document that was read has names and texts that can be relied on. -/
theorem Source.isSound_root {d : Dialect} {source : Source} {document : Document}
    (h : source.read d = .ok document) : document.root.IsSound [] :=
  Read.carried_root Read.carried_isSound (fun _ _ _ depth => Read.yields_startTag depth)
    Read.established_true h

end AttrTemplates.Xml
