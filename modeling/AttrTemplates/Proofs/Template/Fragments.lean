import Mathlib
import AttrTemplates.Proofs.Template.Leaves
import AttrTemplates.Proofs.Template.Spliced
import AttrTemplates.Proofs.Xml.Bound
import AttrTemplates.Proofs.Xml.EnclosedDocument

/-!
# `AttrTemplates.Proofs.Template.Fragments`: markup of nested values

The markup of a value is that of its leaves, and here is what the markup of a leaf is.

* `fragmentOfText_eq` says that the element put around a text does not show: what is read is what
  the text is as content by itself;
* `Contributes` tells what the items of a leaf are, and `Value.Fails` why it has none. A copy of an
  element takes along the text behind it, which `Contributes` has as a parameter.
-/

set_option autoImplicit false

namespace AttrTemplates

open Xml
open Read (contentAlone?)

/-! ### Texts -/

/-- The text to be read is the content with a start tag in front and an end tag behind. -/
theorem toList_wrapped (content : String) :
    (wrapped content).toList = Read.opening ++ (content.toList ++ Read.closing) := by
  unfold wrapped
  rw [String.toList_append, String.toList_append, List.append_assoc]
  rfl

/-- The tags around it hold no halves of surrogate pairs. -/
theorem any_half_wrapped (content : String) :
    ((wrapped content).toList.any fun c => (Text.half? c).isSome)
      = content.toList.any fun c => (Text.half? c).isSome := by
  rw [toList_wrapped, List.any_append, List.any_append,
    show (Read.opening.any fun c => (Text.half? c).isSome) = false by decide,
    show (Read.closing.any fun c => (Text.half? c).isSome) = false by decide, Bool.or_false,
    Bool.false_or]

/-- What is put around a text is neither a half of a character nor a byte order mark. -/
theorem read_wrapped {content : String}
    (hwhole : (content.toList.any fun c => (Text.half? c).isSome) = false) :
    (Source.text (wrapped content)).read .namespaced
      = Read.wholeDocument .namespaced (Read.opening ++ (content.toList ++ Read.closing)) := by
  unfold Source.read
  dsimp only
  rw [any_half_wrapped, hwhole, if_neg Bool.false_ne_true, toList_wrapped]
  rfl

/-- The element put around a text does not show. -/
theorem fragmentOfText_eq (content : String) : fragmentOfText content =
    match contentAlone? content.toList with
    | some ns => .ok (itemsOfContent (.other "1.0") [] ns)
    | none => .error .malformedStructure := by
  -- Half of a surrogate pair makes the content and the document around it malformed alike.
  cases hwhole : content.toList.any fun c => (Text.half? c).isSome with
  | true =>
    have hnone : contentAlone? content.toList = none := if_pos hwhole
    unfold fragmentOfText Source.read
    dsimp only
    rw [hnone, any_half_wrapped, hwhole]
    rfl
  | false =>
    obtain ⟨hsome, hnone⟩ := Read.wholeDocument_enclosed hwhole
    unfold fragmentOfText
    rw [read_wrapped hwhole]
    cases halone : contentAlone? content.toList with
    | some ns =>
      rw [hsome ns halone]
      rfl
    | none =>
      obtain ⟨p, hp⟩ := hnone halone
      rw [hp]

/-! ### Elements in documents -/

namespace Xml

/-- Where the names at a place are bound, so are those at the places below. -/
theorem Sight.isBound_descend? {s t : Sight} (hs : s.node.isBound s.scope = true)
    {path : List Nat} (h : s.descend? path = some t) : t.node.isBound t.scope = true := by
  induction path generalizing s with
  | nil =>
    cases h
    exact hs
  | cons i path ih =>
    -- The path leads to a child of an element, at which everything is bound if it is in the
    -- element.
    unfold descend? at h
    split at h
    · rename_i tag children hnode
      rw [hnode, Node.isBound, Bool.and_eq_true] at hs
      split at h
      · rename_i hole hchild
        have hmem : hole.node ∈ children := by
          rw [childAt?_eq hchild]
          exact List.mem_append_right _ List.mem_cons_self
        exact ih (areBound_iff.mp hs.2 _ hmem) h
      · cases h
    · cases h

/-- In a document whose root is bound, as it is in all that were read, so is all that is inside. -/
theorem DocumentNode.isBound_node {n : DocumentNode}
    (hroot : n.document.root.isBound n.document.outer = true)
    (htop : n.top = n.document.rootNode.top) : n.node.isBound n.scope = true := by
  have htopSight : n.topSight.node.isBound n.topSight.scope = true := by
    unfold topSight
    rw [if_pos htop]
    exact hroot
  unfold node scope sight
  cases h : n.topSight.descend? n.path with
  | none => exact htopSight
  | some t => exact Sight.isBound_descend? htopSight h

end Xml

/-! ### What a leaf contributes -/

/-- The items of a leaf. An element contributes one node, its copy with the declarations that it
needs from around it, and with the text that is said to be `behind` it; any other value contributes
the content that its text is by itself. -/
inductive Contributes (behind : DocumentNode → List Node) : Value → List Item → Prop
  | element {n : DocumentNode} {e : Element} {added : List Binding} :
      n.node.element? = some e →
      (∀ p, declared? added p = if e.toNode.needs [] p then n.scope.uri? p else none) →
      Contributes behind (.node n) [.node (.element (e.tag.rooting added) (duplicateList e.children))
        (behind n) (.other n.document.version) []]
  | content {v : Value} {s : String} {ns : List Node} : v.element? = none → v.written = .ok s →
      contentAlone? s.toList = some ns →
      Contributes behind v (itemsOfContent (.other "1.0") [] ns)

/-- Why a leaf has no items: its text cannot be written, or is no content. -/
inductive Value.Fails : Value → Failure → Prop
  | unwritten {v : Value} {failure : Failure} : v.element? = none → v.written = .error failure →
      v.Fails failure
  | malformed {v : Value} {s : String} : v.element? = none → v.written = .ok s →
      contentAlone? s.toList = none → v.Fails .malformedStructure

section

variable {u : Value}

/-- A leaf whose text can be written is what becomes of that text. -/
theorem fragment_of_written (hleaf : u.isLeaf = true) (he : u.element? = none) {s : String}
    (hwritten : u.written = .ok s) : fragment u =
      match contentAlone? s.toList with
      | some ns => .ok (itemsOfContent (.other "1.0") [] ns)
      | none => .error .malformedStructure := by
  rw [fragment_of_leaf hleaf he, hwritten]
  exact fragmentOfText_eq s

/-- An element comes as a copy that stands alone, anything else is written and read as content. -/
theorem fragment_cases (hleaf : u.isLeaf = true) :
    (∃ n e, u = .node n ∧ n.node.element? = some e ∧
      fragment u = .ok [.node e.standalone.toNode n.tail (.other n.document.version) []]) ∨
    (∃ s ns, u.element? = none ∧ u.written = .ok s ∧ contentAlone? s.toList = some ns ∧
      fragment u = .ok (itemsOfContent (.other "1.0") [] ns)) ∨
    ∃ failure, u.Fails failure ∧ fragment u = .error failure := by
  cases he : u.element? with
  | some e =>
    obtain ⟨n, rfl, hn⟩ := exists_node_of_element? he
    exact .inl ⟨n, e, rfl, hn, fragment_of_element hn⟩
  | none =>
    cases hwritten : u.written with
    | error failure =>
      refine .inr (.inr ⟨failure, .unwritten he hwritten, ?_⟩)
      rw [fragment_of_leaf hleaf he, hwritten]
      rfl
    | ok s =>
      have hread := fragment_of_written hleaf he hwritten
      cases halone : contentAlone? s.toList with
      | none => exact .inr (.inr ⟨_, .malformed he hwritten halone, by rw [hread, halone]⟩)
      | some ns => exact .inr (.inl ⟨s, ns, rfl, rfl, halone, by rw [hread, halone]⟩)

/-- What a leaf has as items is what it contributes. -/
theorem contributes_of_fragment (hleaf : u.isLeaf = true)
    (hbound : ∀ n, u = .node n → n.node.isBound n.scope = true) {part : List Item}
    (h : fragment u = .ok part) : Contributes DocumentNode.tail u part := by
  obtain ⟨n, e, rfl, hn, hitems⟩ | ⟨s, ns, he, hwritten, halone, hitems⟩ | ⟨failure, -, herror⟩ :=
    fragment_cases hleaf
  · have hbound := hbound n rfl
    rw [Node.eq_toNode hn] at hbound
    obtain ⟨added, hcopy, hadded⟩ := e.standalone_of_isBound hbound
    rw [hitems, hcopy] at h
    cases h
    exact .element hn hadded
  · rw [hitems] at h
    cases h
    exact .content he hwritten halone
  · rw [herror] at h
    cases h

/-- A leaf that contributes something has items. -/
theorem Contributes.fragment (hleaf : u.isLeaf = true) {behind : DocumentNode → List Node}
    {part : List Item} (h : Contributes behind u part) : ∃ part', fragment u = .ok part' := by
  cases h with
  | element he _ => exact ⟨_, fragment_of_element he⟩
  | @content _ s ns he hwritten halone =>
    refine ⟨itemsOfContent (.other "1.0") [] ns, ?_⟩
    rw [fragment_of_written hleaf he hwritten, halone]

/-- A leaf fails in the ways that are named, and in no others. -/
theorem fragment_eq_error_iff (hleaf : u.isLeaf = true) {failure : Failure} :
    fragment u = .error failure ↔ u.Fails failure := by
  constructor
  · intro h
    obtain ⟨_, _, -, -, hitems⟩ | ⟨_, _, -, -, -, hitems⟩ | ⟨failure', hfails, herror⟩ :=
      fragment_cases hleaf
    · rw [hitems] at h
      cases h
    · rw [hitems] at h
      cases h
    · rw [herror] at h
      cases h
      exact hfails
  · rintro (⟨he, hwritten⟩ | ⟨he, hwritten, halone⟩)
    · rw [fragment_of_leaf hleaf he, hwritten]
      rfl
    · rw [fragment_of_written hleaf he hwritten, halone]

end

/-! ### What a value contributes -/

section

variable {us : List Value}

/-- The items of leaves are what the leaves contribute, one after the other. -/
theorem contributes_of_joined (hleaf : ∀ u ∈ us, u.isLeaf = true)
    (hbound : ∀ n, .node n ∈ us → n.node.isBound n.scope = true) {items : List Item}
    (h : joined us = .ok items) :
    ∃ parts, List.Forall₂ (Contributes DocumentNode.tail) us parts ∧ parts.flatten = items := by
  -- Items for all leaves mean items for the first one and for the rest.
  induction us generalizing items with
  | nil =>
    cases h
    exact ⟨[], .nil, rfl⟩
  | cons u us ih =>
    rw [joined_cons] at h
    cases hfirst : fragment u with
    | error failure =>
      rw [hfirst] at h
      cases h
    | ok part =>
      rw [hfirst] at h
      cases hrest : joined us with
      | error failure =>
        rw [hrest] at h
        cases h
      | ok rest =>
        rw [hrest] at h
        cases h
        obtain ⟨parts, hparts, rfl⟩ := ih (fun w hw => hleaf w (List.mem_cons_of_mem u hw))
          (fun n hn => hbound n (List.mem_cons_of_mem u hn)) hrest
        have hpart := contributes_of_fragment (hleaf u List.mem_cons_self)
          (fun n hn => hbound n (hn ▸ List.mem_cons_self)) hfirst
        exact ⟨part :: parts, .cons hpart hparts, rfl⟩

/-- The first leaf that has no items is the reason why there are none at all. -/
theorem joined_eq_error_iff {failure : Failure} : joined us = .error failure ↔
    ∃ before u after, us = before ++ u :: after ∧ (∀ w ∈ before, ∃ part, fragment w = .ok part) ∧
      fragment u = .error failure := by
  induction us with
  | nil =>
    constructor
    · exact fun h => nomatch h
    · rintro ⟨before, u, after, hnil, -⟩
      cases before <;> cases hnil
  | cons v us ih =>
    rw [joined_cons]
    cases hfirst : fragment v with
    | error e =>
      constructor
      · intro h
        cases h
        exact ⟨[], v, us, rfl, (fun _ hw => nomatch hw), hfirst⟩
      · rintro ⟨before, u, after, hsplit, hbefore, hu⟩
        cases before with
        | nil =>
          cases hsplit
          exact hfirst.symm.trans hu
        | cons w before =>
          cases hsplit
          obtain ⟨part, hpart⟩ := hbefore v List.mem_cons_self
          exact nomatch hfirst.symm.trans hpart
    | ok part =>
      -- What the first leaf has is in front of the items of the others, so both fail alike.
      have hrest : (do
          let rest ← joined us
          pure (part ++ rest)) = .error failure ↔ joined us = .error failure := by
        cases joined us with
        | error e => exact Iff.rfl
        | ok rest => exact ⟨(fun h => nomatch h), fun h => nomatch h⟩
      refine hrest.trans (ih.trans ⟨?_, ?_⟩)
      · rintro ⟨before, u, after, rfl, hbefore, hu⟩
        exact ⟨v :: before, u, after, rfl, List.forall_mem_cons.mpr ⟨⟨part, hfirst⟩, hbefore⟩, hu⟩
      · rintro ⟨before, u, after, hsplit, hbefore, hu⟩
        cases before with
        | nil =>
          cases hsplit
          exact nomatch hfirst.symm.trans hu
        | cons w before =>
          cases hsplit
          exact ⟨before, u, after, rfl, fun w hw => hbefore w (List.mem_cons_of_mem v hw), hu⟩

/-- How many items a leaf contributes does not depend on what is behind elements. -/
theorem Contributes.length_eq {behind behind' : DocumentNode → List Node} {u : Value}
    {part part' : List Item} (h : Contributes behind u part) (h' : Contributes behind' u part') :
    part.length = part'.length := by
  cases h with
  | element he _ =>
    cases h' with
    | element _ _ => rfl
    | content hnone _ _ => exact nomatch hnone.symm.trans he
  | content hnone hwritten halone =>
    cases h' with
    | element he _ => exact nomatch hnone.symm.trans he
    | content _ hwritten' halone' =>
      rw [hwritten] at hwritten'
      cases hwritten'
      rw [halone] at halone'
      cases halone'
      rfl

/-- An element contributes one node, with what is behind the element behind it. -/
theorem Contributes.eq_singleton {behind : DocumentNode → List Node} {n : DocumentNode}
    {part : List Item} (h : Contributes behind (.node n) part)
    (he : n.node.element?.isSome = true) :
    ∃ m, part = [.node m (behind n) (.other n.document.version) []] := by
  cases h with
  | element _ _ => exact ⟨_, rfl⟩
  | content hnone _ _ =>
    rw [show n.node.element? = none from hnone] at he
    cases he

/-- If the items are also the same without texts behind elements, there were none. -/
theorem tail_eq_nil_of_contributes {parts parts' : List (List Item)}
    (h : List.Forall₂ (Contributes DocumentNode.tail) us parts)
    (h' : List.Forall₂ (Contributes fun _ => []) us parts') (hsame : parts.flatten = parts'.flatten) :
    ∀ n, .node n ∈ us → n.node.element?.isSome = true → n.tail = [] := by
  induction h generalizing parts' with
  | nil => exact fun _ hn => nomatch hn
  | @cons u part us parts hpart hparts ih =>
    cases h' with
    | @cons _ part' _ parts' hpart' hparts' =>
      rw [List.flatten_cons, List.flatten_cons] at hsame
      obtain ⟨rfl, hrest⟩ := List.append_inj hsame (hpart.length_eq hpart')
      intro n hn he
      -- The first parts are of one length, so they are the same. A tail in one would be missing in
      -- the other.
      rcases List.mem_cons.mp hn with rfl | hn
      · obtain ⟨m, hm⟩ := hpart.eq_singleton he
        obtain ⟨m', hm'⟩ := hpart'.eq_singleton he
        rw [hm] at hm'
        injection hm' with hitem
        injection hitem
      · exact ih hparts' hrest n hn he

/-- Without texts behind elements it makes no difference whether they come along. -/
theorem contributes_of_tail_eq_nil {parts : List (List Item)}
    (h : List.Forall₂ (Contributes DocumentNode.tail) us parts)
    (htail : ∀ n, .node n ∈ us → n.node.element?.isSome = true → n.tail = []) :
    List.Forall₂ (Contributes fun _ => []) us parts := by
  induction h with
  | nil => exact .nil
  | @cons u part us parts hpart hparts ih =>
    refine .cons ?_ (ih fun n hn => htail n (List.mem_cons_of_mem u hn))
    cases hpart with
    | @element n e added he hadded =>
      rw [htail n List.mem_cons_self (by rw [he]; rfl)]
      exact .element he hadded
    | content hnone hwritten halone => exact .content hnone hwritten halone

end

/-- The markup of a value is that of its leaves, from left to right, if all of them have one.

An element contributes one node, which has the name, the attributes and the content of the element;
any other leaf contributes the content that its text is by itself. But a copy of an element takes
along the text behind it. So elements contribute nothing from around them just when nothing stands
behind them there.

There is no markup just when some leaf has none, and then the first such leaf tells why: an integer
in it is too long to be written, or its text is no content. -/
theorem fragment_joins_leaves (v : Value)
    (hbound : ∀ n, .node n ∈ v.leaves → n.node.isBound n.scope = true) :
    (∀ items, fragment v = .ok items →
      (∃ parts, List.Forall₂ (Contributes DocumentNode.tail) v.leaves parts ∧
        parts.flatten = items) ∧
      ((∃ parts, List.Forall₂ (Contributes fun _ => []) v.leaves parts ∧ parts.flatten = items) ↔
        ∀ n, .node n ∈ v.leaves → n.node.element?.isSome = true → n.tail = [])) ∧
    (∀ failure, fragment v = .error failure ↔
      ∃ before u after, v.leaves = before ++ u :: after ∧
        (∀ w ∈ before, ∃ part, Contributes DocumentNode.tail w part) ∧ u.Fails failure) := by
  have hleaf := isLeaf_of_mem_leaves v
  -- From here on it is all about the list of the leaves, no more about the value.
  rw [fragment_eq]
  refine ⟨fun items h => ?_, fun failure => joined_eq_error_iff.trans ?_⟩
  · obtain ⟨parts, hparts, rfl⟩ := contributes_of_joined hleaf hbound h
    refine ⟨⟨parts, hparts, rfl⟩, ?_, fun htail =>
      ⟨parts, contributes_of_tail_eq_nil hparts htail, rfl⟩⟩
    rintro ⟨parts', hparts', hsame⟩
    exact tail_eq_nil_of_contributes hparts hparts' hsame.symm
  · constructor
    · rintro ⟨before, u, after, hsplit, hbefore, hu⟩
      have hmem : ∀ w ∈ before ++ u :: after, w ∈ v.leaves := fun w hw => hsplit ▸ hw
      refine ⟨before, u, after, hsplit, fun w hw => ?_, ?_⟩
      · obtain ⟨part, hpart⟩ := hbefore w hw
        have hw := hmem w (List.mem_append_left _ hw)
        exact ⟨part, contributes_of_fragment (hleaf w hw) (fun n hn => hbound n (hn ▸ hw)) hpart⟩
      · exact (fragment_eq_error_iff (hleaf u (hmem u (by simp)))).mp hu
    · rintro ⟨before, u, after, hsplit, hbefore, hu⟩
      have hmem : ∀ w ∈ before ++ u :: after, w ∈ v.leaves := fun w hw => hsplit ▸ hw
      refine ⟨before, u, after, hsplit, fun w hw => ?_, ?_⟩
      · obtain ⟨part, hpart⟩ := hbefore w hw
        exact hpart.fragment (hleaf w (hmem w (List.mem_append_left _ hw)))
      · exact (fragment_eq_error_iff (hleaf u (hmem u (by simp)))).mpr hu

/-- An element with text before and behind it. -/
def linked : DocumentNode where
  document := Document.ofNode "1.0" (.element ⟨.plain "w", [], [], some 1⟩ [.text "x",
    .element ⟨.plain "a", [], [], some 1⟩ [], .text "tail"]) [] []
  top := 0
  path := [0]

/-- A text, and an element in a tuple of its own. -/
def nested : Value := .list [.str "t<b/>", .tuple [.node linked]]

/-- As content it is a text, the element in its markup, and a copy of the other element with its
tail. -/
theorem fragment_nested : fragment nested = .ok [.text "t",
    .node (.element ⟨.plain "b", [], [], some 1⟩ []) [] (.other "1.0") [],
    .node (.element ⟨.plain "a", [], [], some 1⟩ []) [.text "tail"] (.other "1.0") []] := by
  have hmarkup : contentAlone? "t<b/>".toList
      = some [.text "t", .element ⟨.plain "b", [], [], some 1⟩ []] := by cbv
  have hfirst := fragment_of_written (u := .str "t<b/>") (s := "t<b/>") rfl rfl rfl
  rw [hmarkup] at hfirst
  have hleaves : nested.leaves = [.str "t<b/>", .node linked] := rfl
  rw [fragment_eq, hleaves, joined_cons, joined_singleton, hfirst]
  rfl

/-- What comes of it is joined from its leaves if the text behind an element belongs to the element,
and not otherwise. -/
theorem fragment_joins_leaves_nested : ∃ items, fragment nested = .ok items ∧
    (∃ parts, List.Forall₂ (Contributes DocumentNode.tail) nested.leaves parts ∧
      parts.flatten = items) ∧
    ¬ ∃ parts, List.Forall₂ (Contributes fun _ => []) nested.leaves parts ∧
      parts.flatten = items := by
  have hleaves : nested.leaves = [.str "t<b/>", .node linked] := rfl
  have hmem : .node linked ∈ nested.leaves := by
    rw [hleaves]
    exact List.mem_cons_of_mem _ List.mem_cons_self
  have hbound : ∀ n, .node n ∈ nested.leaves → n.node.isBound n.scope = true := by
    intro n hn
    rw [hleaves] at hn
    obtain hn | hn := List.mem_cons.mp hn
    · cases hn
    · cases List.mem_singleton.mp hn
      exact DocumentNode.isBound_node rfl rfl
  obtain ⟨hitems, -⟩ := fragment_joins_leaves nested hbound
  obtain ⟨hparts, halone⟩ := hitems _ fragment_nested
  -- The text behind the element is not empty, so the parts without it make something else.
  refine ⟨_, fragment_nested, hparts, fun h => ?_⟩
  have htail : linked.tail = [] := halone.mp h linked hmem rfl
  cases htail

/-- The text behind an element comes along with its copy, and is no part of the element. -/
theorem fragment_takes_tail :
    fragment (.node linked) = .ok [.node (.element ⟨.plain "a", [], [], some 1⟩ [])
      [.text "tail"] (.other "1.0") []] ∧
    ¬ ∃ parts, List.Forall₂ (Contributes fun _ => []) (Value.node linked).leaves parts ∧
      parts.flatten = [.node (.element ⟨.plain "a", [], [], some 1⟩ []) [.text "tail"]
        (.other "1.0") []] := by
  refine ⟨rfl, ?_⟩
  rintro ⟨parts, hparts, hflatten⟩
  rw [show (Value.node linked).leaves = [.node linked] from rfl] at hparts
  obtain _ | ⟨hpart, _ | _⟩ := hparts
  obtain ⟨m, rfl⟩ := hpart.eq_singleton rfl
  cases hflatten

end AttrTemplates
