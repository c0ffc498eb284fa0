import AttrTemplates.Proofs.Template.Handling
import AttrTemplates.Proofs.Template.Placement
import AttrTemplates.Proofs.Text.Pieces
import AttrTemplates.Template.Basic

/-!
# `AttrTemplates.Proofs.Template.Rooted`: what may stand for the root of a document

Directives can remove the root of a document, or put other things in its place. Not everything
makes a document then. `replaced_root_iff` says what does: one node, with nothing but white space
before and behind it. In every other case processing fails, and the failure names the root, tells
how many nodes there were and points at the line of the root.

That is less than it takes to make a document. The node may be a comment, and the text that it
brings along as its tail is not looked at. `Document.IsOneElement` is the property that is missed,
and `replaced_root_iff` also says exactly when. `root_not_one_element` has such cases.
-/

set_option autoImplicit false

namespace AttrTemplates

open Xml Run

/-! ### One node among items -/

/-- Whether an item is a node. -/
def Item.isNode : Item → Bool
  | .node .. => true
  | _ => false

/-- Whether an item is white space. -/
def Item.isBlank : Item → Bool
  | .text s => s.toList.all Text.isBlank
  | _ => false

/-- The nodes among items are those that items stand for, without the texts. -/
theorem nodeItems_eq (self : Element) (items : List Item) :
    nodeItems self items = (items.map (Item.resolve self)).filter Item.isNode := by
  unfold nodeItems
  exact congrArg (fun p => List.filter p _) (funext fun item => by cases item <;> rfl)

/-- The element itself is no text. -/
theorem textItems_resolve (self : Element) (items : List Item) :
    textItems (items.map (Item.resolve self)) = textItems items := by
  induction items with
  | nil => rfl
  | cons item items ih => cases item <;> simp only [List.map_cons, Item.resolve, textItems, ih]

/-- The text among items is white space just when every item is a node, or white space itself. -/
theorem textItems_blank_iff {items : List Item} (h : ∀ item ∈ items, item.isItself = false) :
    Text.trim (textItems items) = [] ↔
      ∀ item ∈ items, item.isNode = false → item.isBlank = true := by
  rw [Text.trim_eq_nil_iff]
  induction items with
  | nil => exact ⟨(fun _ _ hitem => nomatch hitem), (fun _ _ hc => nomatch hc)⟩
  | cons item items ih =>
    obtain ⟨hitem, hitems⟩ := List.forall_mem_cons.mp h
    rw [List.forall_mem_cons, ← ih hitems]
    cases item with
    | text s =>
      rw [textItems, List.forall_mem_append]
      refine and_congr ?_ Iff.rfl
      exact ⟨fun hs _ => List.all_eq_true.mpr hs, fun hs => List.all_eq_true.mp (hs rfl)⟩
    | node => exact ⟨(fun hs => ⟨(fun hn => nomatch hn), hs⟩), (fun hs => hs.2)⟩
    | itself => cases hitem

/-- One node stands for an element, with nothing but white space before and behind it. -/
def Reply.IsOneNode (reply : Reply) (n : Node) (tail : List Node) (origin : Origin)
    (outer : Scope) : Prop :=
  ∃ front behind, reply.items = front ++ .node n tail origin outer :: behind ∧
    ∀ item ∈ front ++ behind, item.isBlank = true

/-- The one node is found by looking for nodes and for text separately. -/
theorem Reply.isOneNode_iff {reply : Reply} {n : Node} {tail : List Node} {origin : Origin}
    {outer : Scope} :
    reply.IsOneNode n tail origin outer ↔
      reply.items.filter Item.isNode = [.node n tail origin outer] ∧
        Text.trim (textItems reply.items) = [] := by
  -- A blank item is text, so none counts twice.
  have hnode : ∀ {item : Item}, item.isBlank = true → ¬ item.isNode = true := by
    intro item hitem
    cases item with
    | text s => exact Bool.false_ne_true
    | node | itself => cases hitem
  unfold IsOneNode
  rw [textItems_blank_iff reply.items_not_itself, List.filter_eq_cons_iff]
  constructor
  · rintro ⟨front, behind, hitems, hall⟩
    obtain ⟨hfront, hbehind⟩ := List.forall_mem_append.mp hall
    refine ⟨⟨front, behind, hitems, fun item hitem => hnode (hfront item hitem), rfl, ?_⟩, ?_⟩
    · exact List.filter_eq_nil_iff.mpr fun item hitem => hnode (hbehind item hitem)
    · rw [hitems, List.forall_mem_append, List.forall_mem_cons]
      exact ⟨(fun item hitem _ => hfront item hitem), (fun h => nomatch h),
        (fun item hitem _ => hbehind item hitem)⟩
  · -- What is beside the node is no node, and so it is blank text.
    rintro ⟨⟨front, behind, hitems, hfront, -, hbehind⟩, htext⟩
    rw [List.filter_eq_nil_iff] at hbehind
    rw [hitems, List.forall_mem_append, List.forall_mem_cons] at htext
    obtain ⟨hblank₁, -, hblank₂⟩ := htext
    exact ⟨front, behind, hitems, List.forall_mem_append.mpr
      ⟨fun item hitem => hblank₁ item hitem (Bool.eq_false_iff.mpr (hfront item hitem)),
        fun item hitem => hblank₂ item hitem (Bool.eq_false_iff.mpr (hbehind item hitem))⟩⟩

/-! ### Documents with another root -/

/-- The items can be resolved before they are looked at. -/
theorem rootFrom_eq (d : Document) (root left : Element) (items : List Item) :
    rootFrom d root left items
      = match (items.map (Item.resolve left)).filter Item.isNode,
          (Text.trim (textItems (items.map (Item.resolve left)))).isEmpty with
        | [.node n tail origin outer], true => .ok (origin.document d n tail outer)
        | _, _ => .error (.rootReplaced root.tag.name.written
            ((items.map (Item.resolve left)).filter Item.isNode).length root.tag.line) := by
  show (match nodeItems left items, (Text.trim (textItems items)).isEmpty with
    | [.node n tail origin outer], true => .ok (origin.document d n tail outer)
    | _, _ => .error (.rootReplaced root.tag.name.written (nodeItems left items).length
        root.tag.line) : Except Failure Document) = _
  rw [nodeItems_eq, textItems_resolve]

section

variable {t : Template} {d : Document} {root : Element} {reply : Reply} {s s' : RunState}

/-- The document that comes of a reply, or why there is none. -/
def Reply.document (d : Document) (root : Element) (reply : Reply) : Except Failure Document :=
  rootFrom d root root reply.items

/-- One node makes a document of which it is the root. -/
theorem Reply.document_of_isOneNode {n : Node} {tail : List Node} {origin : Origin}
    {outer : Scope} (h : reply.IsOneNode n tail origin outer) :
    reply.document d root = .ok (origin.document d n tail outer) := by
  obtain ⟨hnodes, htext⟩ := isOneNode_iff.mp h
  unfold document
  rw [rootFrom_eq, map_resolve_of_not_itself reply.items_not_itself, hnodes, htext]
  rfl

/-- Anything else makes none. -/
theorem Reply.document_of_not_isOneNode
    (h : ∀ n tail origin outer, ¬ reply.IsOneNode n tail origin outer) :
    reply.document d root = .error (.rootReplaced root.tag.name.written
      (reply.items.countP Item.isNode) root.tag.line) := by
  unfold document
  rw [rootFrom_eq, map_resolve_of_not_itself reply.items_not_itself, List.countP_eq_length_filter]
  split
  · rename_i n tail origin outer hnodes htext
    exact absurd (isOneNode_iff.mpr ⟨hnodes, List.isEmpty_iff.mp htext⟩) (h n tail origin outer)
  · rfl

/-- A root that does not stay is answered with the document that comes of the reply. -/
theorem processDocument_of_replaced (hroot : d.root = root.toNode)
    (hreply : (t.walk ⟨root, [], []⟩).Gives s reply s')
    (hreplaced : ∀ e locals, reply ≠ .stays e locals) :
    (t.processDocument d).run.run s = (reply.document d root, s') := by
  have hlift : ∀ x : Except Failure Document, (liftM x : Run Document).run.run s' = (x, s') := by
    intro x
    cases x <;> rfl
  have helement : d.root.element? = some root := by rw [hroot]; rfl
  unfold Template.processDocument
  simp only [helement]
  rw [run_bind, show (t.walk ⟨root, [], []⟩).run.run s = (.ok reply, s') from hreply]
  unfold Reply.document
  rw [rootFrom_eq, map_resolve_of_not_itself reply.items_not_itself]
  cases reply with
  | stays e locals => exact absurd rfl (hreplaced e locals)
  | becomes left items => exact (hlift _).trans (by rw [rootFrom_eq]; rfl)
  | opens left =>
    refine (hlift _).trans ?_
    rw [rootFrom_eq, map_resolve_of_not_itself (Reply.opens left).items_not_itself]

end

/-! ### Documents that are one element -/

/-- A document that is one element: the text that the root brings along is white space. -/
def Xml.Document.IsOneElement (d : Document) : Prop :=
  d.root.element?.isSome = true ∧ (joinTexts d.tail).toList.all Text.isBlank = true

/-- At most one node stands for an element alone. -/
theorem Reply.IsOneNode.unique {reply : Reply} {n n' : Node} {tail tail' : List Node}
    {origin origin' : Origin} {outer outer' : Scope} (h : reply.IsOneNode n tail origin outer)
    (h' : reply.IsOneNode n' tail' origin' outer') :
    n' = n ∧ tail' = tail ∧ origin' = origin ∧ outer' = outer := by
  have hsame := (isOneNode_iff.mp h').1.symm.trans (isOneNode_iff.mp h).1
  cases hsame
  exact ⟨rfl, rfl, rfl, rfl⟩

/-- A node makes a document that is one element if it is one. -/
theorem Origin.document_isOneElement_iff {origin : Origin} {d : Document} {n : Node}
    {tail : List Node} {outer : Scope} :
    (origin.document d n tail outer).IsOneElement ↔
      n.element?.isSome = true ∧ (joinTexts tail).toList.all Text.isBlank = true := by
  cases origin <;> exact Iff.rfl

/-- What may stand for the root. When the root of a document has been processed and does not stay,
a document comes out just when one node stands for it, with nothing but white space before and
behind it. That node is then the root, with the text that it brings along behind it. In every other
case the outcome is the failure that the root must be replaced by exactly one element.

So what comes out is a document that is one element just when the node is an element and the text
that it brings along is white space. Neither is looked at. -/
theorem replaced_root_iff {t : Template} {data : Value} {d : Document} {globals : Entries}
    {root : Element} {reply : Reply} {s : RunState}
    (hparse : t.parse = .ok d) (hdata : data.entriesIfAny = .ok globals)
    (hroot : d.root = root.toNode)
    (hreply : (t.walk ⟨root, [], []⟩).Gives ⟨globals, [], 0, false⟩ reply s)
    (hreplaced : ∀ e locals, reply ≠ .stays e locals) :
    (∀ d', t.process data = (.ok d', s.events) ↔ ∃ n tail origin outer,
      reply.IsOneNode n tail origin outer ∧ d' = origin.document d n tail outer) ∧
    ((∀ n tail origin outer, ¬ reply.IsOneNode n tail origin outer) ↔
      t.process data = (.error (.rootReplaced root.tag.name.written
        (reply.items.countP Item.isNode) root.tag.line), s.events)) ∧
    (∀ d' events, t.process data = (.ok d', events) → (d'.IsOneElement ↔
      ∃ (e : Element) (tail : List Node) (origin : Origin) (outer : Scope),
        reply.IsOneNode e.toNode tail origin outer ∧
          (joinTexts tail).toList.all Text.isBlank = true)) := by
  have hprocess : t.process data = (reply.document d root, s.events) := by
    unfold Template.process Run.outcome
    simp only [hparse, hdata, bind, Except.bind, pure, Except.pure]
    rw [show (t.processDocument d).run.run _ = _ from
      processDocument_of_replaced hroot hreply hreplaced]
  rw [hprocess]
  -- All three are told by the outcome, which is a document if the reply is one node, and the same
  -- failure whenever it is not.
  by_cases hone : ∃ n tail origin outer, reply.IsOneNode n tail origin outer
  · obtain ⟨n, tail, origin, outer, hone⟩ := hone
    rw [Reply.document_of_isOneNode hone]
    refine ⟨fun d' => ⟨?_, ?_⟩, ⟨fun h => absurd hone (h _ _ _ _), fun h => nomatch h⟩, ?_⟩
    · intro h
      cases h
      exact ⟨n, tail, origin, outer, hone, rfl⟩
    · rintro ⟨n', tail', origin', outer', hone', rfl⟩
      obtain ⟨rfl, rfl, rfl, rfl⟩ := hone.unique hone'
      rfl
    · intro d' events h
      cases h
      rw [Origin.document_isOneElement_iff]
      constructor
      · rintro ⟨helement, hblank⟩
        obtain ⟨e, rfl⟩ : ∃ e : Element, n = e.toNode := by
          cases n with
          | element tag children => exact ⟨⟨tag, children⟩, rfl⟩
          | comment | instruction | reference | text => cases helement
        exact ⟨e, tail, origin, outer, hone, hblank⟩
      · rintro ⟨e, tail', origin', outer', hone', hblank⟩
        obtain ⟨rfl, rfl, rfl, rfl⟩ := hone.unique hone'
        exact ⟨rfl, hblank⟩
  · have hnone : ∀ n tail origin outer, ¬ reply.IsOneNode n tail origin outer :=
      fun n tail origin outer h => hone ⟨n, tail, origin, outer, h⟩
    rw [Reply.document_of_not_isOneNode hnone]
    refine ⟨fun d' => ⟨(fun h => nomatch h), ?_⟩, ⟨(fun _ => rfl), fun _ => hnone⟩,
      fun d' events h => nomatch h⟩
    rintro ⟨n, tail, origin, outer, h, -⟩
    exact absurd h (hnone n tail origin outer)

/-- Whether a document is one element is decided by looking at its root and the text behind. -/
instance (d : Document) : Decidable d.IsOneElement :=
  inferInstanceAs (Decidable (_ ∧ _))

/-- What can be told of the document that comes out is found by processing. -/
theorem exists_of_process {t : Template} {data : Value} {P : Document → Prop} [DecidablePred P]
    (h : (t.process data).1.toOption.any (fun d => decide (P d)) = true) :
    ∃ d events, t.process data = (.ok d, events) ∧ P d := by
  rcases hprocess : t.process data with ⟨outcome, events⟩
  rw [hprocess] at h
  cases outcome with
  | error f => cases h
  | ok d => exact ⟨d, events, rfl, of_decide_eq_true h⟩

/-- A template whose root is replaced with markup. -/
def replacingTemplate : Template := Template.ofSource (some (.text
  "<r xmlns:tal=\"http://xml.zope.org/namespaces/tal\" tal:replace=\"structure x\"/>"))

/-- The root of that template. -/
def replacedRoot : Element where
  tag := ⟨.plain "r", [standardAttribute "replace" "structure x"], [⟨some "tal", standardUri⟩],
    some 1⟩
  children := []

/-- Data with a text of markup in it. -/
def withText (markup : String) : Entries := [(.str "x", .str markup)]

/-- The template is read as one empty element. -/
theorem replacingTemplate_parse :
    ∃ d, replacingTemplate.parse = .ok d ∧ d.root = replacedRoot.toNode := by
  have hroot : replacingTemplate.parse.toOption.any (fun d => d.root.element?.any fun e =>
      decide (e.tag = replacedRoot.tag) && e.children.isEmpty) = true := by decide +kernel
  cases hparse : replacingTemplate.parse with
  | error f =>
    rw [hparse] at hroot
    cases hroot
  | ok d =>
    rw [hparse] at hroot
    refine ⟨d, rfl, ?_⟩
    cases hd : d.root with
    | element tag children =>
      simp only [Except.toOption, Option.any_some, hd, Node.element?, Bool.and_eq_true,
        decide_eq_true_eq, List.isEmpty_iff] at hroot
      rw [hroot.1, hroot.2]
      rfl
    | comment | instruction | reference | text =>
      simp only [Except.toOption, Option.any_some, hd, Node.element?, Option.any_none,
        Bool.false_eq_true] at hroot

/-- White space before an element does not keep it from being the root. -/
theorem replaced_root_iff_spaced : ∃ (reply : Reply) (s : RunState) (e : Element)
    (tail : List Node) (origin : Origin) (outer : Scope),
    (replacingTemplate.walk ⟨replacedRoot, [], []⟩).Gives ⟨withText " <b/>", [], 0, false⟩ reply s ∧
      reply.items.length = 2 ∧ reply.IsOneNode e.toNode tail origin outer := by
  have hsucceeds : (replacingTemplate.walk ⟨replacedRoot, [], []⟩).Succeeds
      ⟨withText " <b/>", [], 0, false⟩ := by decide +kernel
  have hitems : ((replacingTemplate.walk ⟨replacedRoot, [], []⟩).run.run
      ⟨withText " <b/>", [], 0, false⟩).1.toOption.any (fun reply => reply.items.length == 2)
        = true := by decide +kernel
  have hone : ∃ d' events, replacingTemplate.process (.map (withText " <b/>")) = (.ok d', events) ∧
      d'.IsOneElement := exists_of_process (by decide +kernel)
  have hdata : (Value.map (withText " <b/>")).entriesIfAny = .ok (withText " <b/>") := by rfl
  obtain ⟨d, hparse, hroot⟩ := replacingTemplate_parse
  obtain ⟨reply, s, hreply⟩ := succeeds_iff.mp hsucceeds
  rw [show StateT.run _ _ = _ from hreply] at hitems
  have hlength : reply.items.length = 2 := beq_iff_eq.mp hitems
  -- An element that stays is one item.
  have hreplaced : ∀ e locals, reply ≠ .stays e locals := by
    rintro e locals rfl
    cases hlength
  obtain ⟨d', events, hprocess, hone⟩ := hone
  obtain ⟨-, -, hwell⟩ := replaced_root_iff hparse hdata hroot hreply hreplaced
  obtain ⟨e, tail, origin, outer, hone, -⟩ := (hwell d' events hprocess).mp hone
  exact ⟨reply, s, e, tail, origin, outer, hreply, hlength, hone⟩

/-- An element with text behind it comes out as a document, and so does a comment. -/
theorem root_not_one_element :
    (∃ d' events, replacingTemplate.process (.map (withText "<b/>tail")) = (.ok d', events) ∧
      ¬ d'.IsOneElement) ∧
    ∃ d' events, replacingTemplate.process (.map (withText "<!--note-->")) = (.ok d', events) ∧
      ¬ d'.IsOneElement :=
  ⟨exists_of_process (by decide +kernel), exists_of_process (by decide +kernel)⟩

end AttrTemplates
