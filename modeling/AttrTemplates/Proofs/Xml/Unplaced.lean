import AttrTemplates.Proofs.Xml.Content
import AttrTemplates.Template.Splice

/-!
# `AttrTemplates.Proofs.Xml.Unplaced`: trees without the places they were read from

A tag, a comment and an instruction know the source line on which they end. That is for reports only.
`Node.unplaced` leaves the lines out, and every operation on trees commutes with that: what is done to
a tree, and which prefixes are made up on the way, does not depend on where the tree was read.

* `copied_unplaced` and `adoptInto_unplaced` say so of copies and moves;
* `leadingText_unplacedList` and `withTails_unplacedList` say so of taking content apart.
-/

set_option autoImplicit false

namespace AttrTemplates.Xml

/-- A tag that stands on no line. -/
def Tag.unplaced (t : Tag) : Tag := { t with line := none }

mutual

/-- A node without lines. -/
def Node.unplaced : Node → Node
  | .element tag children => .element tag.unplaced (unplacedList children)
  | .comment s _ => .comment s none
  | .instruction target s _ => .instruction target s none
  | n => n

/-- Nodes without lines. -/
def unplacedList : List Node → List Node
  | [] => []
  | n :: ns => n.unplaced :: unplacedList ns

end

/-- An element without lines. -/
def Element.unplaced (e : Element) : Element := ⟨e.tag.unplaced, unplacedList e.children⟩

/-- Documents that are the same but for their lines and for the version that was declared. -/
structure Document.SameTree (d e : Document) : Prop where
  opening : unplacedList d.opening = unplacedList e.opening
  doctype : d.doctype = e.doctype
  heading : unplacedList d.heading = unplacedList e.heading
  root : d.root.unplaced = e.root.unplaced
  tail : unplacedList d.tail = unplacedList e.tail
  outer : d.outer = e.outer
  closing : unplacedList d.closing = unplacedList e.closing

/-- Lines are left out node by node. -/
theorem unplacedList_eq_map (ns : List Node) : unplacedList ns = ns.map Node.unplaced := by
  induction ns with
  | nil => rfl
  | cons n ns ih => rw [unplacedList, ih, List.map_cons]

/-- Lines may be left out before nodes are put together or afterwards. -/
theorem unplacedList_append (ms ns : List Node) :
    unplacedList (ms ++ ns) = unplacedList ms ++ unplacedList ns := by
  rw [unplacedList_eq_map, unplacedList_eq_map, unplacedList_eq_map, List.map_append]

/-- An element without line is a node without line. -/
theorem Element.unplaced_toNode (e : Element) : e.unplaced.toNode = e.toNode.unplaced := rfl

/-! ### Copies -/

mutual

/-- A copy of a tree without lines is a copy of the tree, but for its lines. -/
theorem Node.copied_unplaced (inner : Scope) (added : List Binding) : (n : Node) →
    n.unplaced.copied inner added
      = ((n.copied inner added).1.unplaced, (n.copied inner added).2)
  | .element tag children => by
    simp only [Node.unplaced, Node.copied, Tag.unplaced, copiedList_unplacedList _ _ children]
  | .comment .. => rfl
  | .instruction .. => rfl
  | .reference _ => rfl
  | .text _ => rfl

/-- Copies of nodes are made of their names, so lines go along. -/
theorem copiedList_unplacedList (inner : Scope) (added : List Binding) : (ns : List Node) →
    copiedList inner added (unplacedList ns)
      = (unplacedList (copiedList inner added ns).1, (copiedList inner added ns).2)
  | [] => rfl
  | n :: ns => by
    simp only [unplacedList, copiedList, Node.copied_unplaced _ _ n,
      copiedList_unplacedList _ _ ns]

end

/-- A copy that stands alone has the lines of its element. -/
theorem Element.standalone_unplaced (e : Element) : e.unplaced.standalone = e.standalone.unplaced := by
  have hcopied := e.toNode.copied_unplaced [] []
  unfold Element.standalone
  rw [e.unplaced_toNode, hcopied]
  -- The copy of an element is an element.
  rcases hcopy : e.toNode.copied [] [] with ⟨n, added⟩
  cases n with
  | element tag children => rfl
  | comment | instruction | reference | text => rfl

mutual

/-- By recursion on the node: values are expanded, and lines are not touched. -/
theorem Node.withExpansions_unplaced :
    (n : Node) → n.unplaced.withExpansions = n.withExpansions.unplaced
  | .element tag children => by
    simp only [Node.unplaced, Node.withExpansions, Tag.unplaced,
      withExpansionsList_unplacedList children]
  | .comment .. => rfl
  | .instruction .. => rfl
  | .reference _ => rfl
  | .text _ => rfl

/-- The same for lists of nodes. -/
theorem withExpansionsList_unplacedList : (ns : List Node) →
    withExpansionsList (unplacedList ns) = unplacedList (withExpansionsList ns)
  | [] => rfl
  | n :: ns => by
    rw [unplacedList, withExpansionsList, withExpansionsList, unplacedList,
      Node.withExpansions_unplaced n, withExpansionsList_unplacedList ns]

end

/-! ### Moves -/

mutual

/-- By recursion on the node: a move renames bindings, and lines are not touched. -/
theorem Node.moved_unplaced (own : Option Binding) (between : Scope) (inner : List Renaming)
    (m : Move) : (n : Node) → n.unplaced.moved own between inner m
      = ((n.moved own between inner m).1.unplaced, (n.moved own between inner m).2)
  | .element tag children => by
    simp only [Node.unplaced, Node.moved, Tag.unplaced, movedList_unplacedList _ _ _ _ children]
  | .comment .. => rfl
  | .instruction .. => rfl
  | .reference _ => rfl
  | .text _ => rfl

/-- The same for lists of nodes. -/
theorem movedList_unplacedList (own : Option Binding) (between : Scope) (inner : List Renaming)
    (m : Move) : (ns : List Node) → movedList own between inner m (unplacedList ns)
      = (unplacedList (movedList own between inner m ns).1, (movedList own between inner m ns).2)
  | [] => rfl
  | n :: ns => by
    simp only [unplacedList, movedList, Node.moved_unplaced _ _ _ _ n,
      movedList_unplacedList _ _ _ _ ns]

end

/-- A move does not depend on lines. -/
theorem Node.adoptInto_unplaced (around : Scope) (made : Prefixes) (n : Node) :
    n.unplaced.adoptInto around made
      = ((n.adoptInto around made).1.unplaced, (n.adoptInto around made).2) := by
  cases n with
  | element tag children =>
    simp only [Node.unplaced, Node.adoptInto, Tag.unplaced, movedList_unplacedList]
  | comment | instruction | reference | text => rfl

/-- An element is taken out with its lines. -/
theorem Element.takenOut_unplaced (made : Prefixes) (e : Element) :
    e.unplaced.takenOut made = ((e.takenOut made).1.unplaced, (e.takenOut made).2) := by
  have hmoved := e.toNode.adoptInto_unplaced [] made
  unfold Element.takenOut
  rw [e.unplaced_toNode, hmoved]
  rcases e.toNode.adoptInto [] made with ⟨n, made'⟩
  cases n with
  | element tag children => rfl
  | comment | instruction | reference | text => rfl

/-- Nodes that are the same but for lines are so after the same move, with the same prefixes made up. -/
theorem Node.adoptInto_same {n n' : Node} (h : n.unplaced = n'.unplaced) (around : Scope)
    (made : Prefixes) : (n.adoptInto around made).1.unplaced = (n'.adoptInto around made).1.unplaced ∧
      (n.adoptInto around made).2 = (n'.adoptInto around made).2 := by
  have hmoved := n.adoptInto_unplaced around made
  rw [h, n'.adoptInto_unplaced] at hmoved
  exact ⟨(Prod.mk.inj hmoved).1.symm, (Prod.mk.inj hmoved).2.symm⟩

/-- Elements that are the same but for lines are taken out with the same prefixes made up. -/
theorem Element.takenOut_same {e e' : Element} (h : e.unplaced = e'.unplaced) (made : Prefixes) :
    (e.takenOut made).1.unplaced = (e'.takenOut made).1.unplaced ∧
      (e.takenOut made).2 = (e'.takenOut made).2 := by
  have htaken := e.takenOut_unplaced made
  rw [h, e'.takenOut_unplaced] at htaken
  exact ⟨(Prod.mk.inj htaken).1.symm, (Prod.mk.inj htaken).2.symm⟩

/-! ### Content -/

/-- Leaving out lines leaves text as it is, and makes none. -/
theorem leavesText_unplaced : LeavesText Node.unplaced where
  isText n := by cases n <;> rfl
  eq_self := by
    intro n h
    cases n with
    | text => rfl
    | element | comment | instruction | reference => cases h

/-- The text in front of nodes has no lines. -/
theorem leadingText_unplacedList (ns : List Node) :
    leadingText (unplacedList ns) = leadingText ns := by
  rw [unplacedList_eq_map, leavesText_unplaced.leadingText_map]

/-- Nodes have the same text behind them. -/
theorem withTails_unplacedList (ns : List Node) :
    withTails (unplacedList ns)
      = (withTails ns).map fun p => (p.1.unplaced, unplacedList p.2) := by
  simp only [unplacedList_eq_map, leavesText_unplaced.withTails_map]

/-! ### Tags and elements -/

/-- An element is put together from a tag and children without lines. -/
theorem Element.unplaced_mk {t t' : Tag} {ns ns' : List Node} (htag : t.unplaced = t'.unplaced)
    (hchildren : unplacedList ns = unplacedList ns') :
    (Element.mk t ns).unplaced = (Element.mk t' ns').unplaced := by
  unfold Element.unplaced
  rw [htag, hchildren]

/-- A line contributes nothing to the scope of the children. -/
theorem Tag.frame_unplaced (t : Tag) : t.unplaced.frame = t.frame := rfl

/-- Setting an attribute does not touch the line. -/
theorem Tag.withAttribute_unplaced (t : Tag) (name : Name) (value : String) :
    t.unplaced.withAttribute name value = (t.withAttribute name value).unplaced := by
  unfold Tag.withAttribute
  rw [show t.unplaced.attributes = t.attributes from rfl]
  split <;> rfl

/-- Tags that are the same but for lines are so when an attribute is set or removed. -/
theorem Tag.withAttribute_same {t t' : Tag} (h : t.unplaced = t'.unplaced) (name : Name)
    (value : String) : (t.withAttribute name value).unplaced = (t'.withAttribute name value).unplaced := by
  rw [← t.withAttribute_unplaced, h, t'.withAttribute_unplaced]

/-- A declaration may be added to tags that are the same but for lines. -/
theorem Tag.declaring_same {t t' : Tag} (h : t.unplaced = t'.unplaced) (b : Binding) :
    Tag.unplaced { t with declarations := t.declarations ++ [b] }
      = Tag.unplaced { t' with declarations := t'.declarations ++ [b] } :=
  congrArg (fun t : Tag => { t with declarations := t.declarations ++ [b] }) h

/-- An attribute may be taken off tags that are the same but for lines. -/
theorem Tag.withoutAttribute_same {t t' : Tag} (h : t.unplaced = t'.unplaced) (key : String) :
    (t.withoutAttribute key).unplaced = (t'.withoutAttribute key).unplaced :=
  congrArg (Tag.withoutAttribute · key) h

end AttrTemplates.Xml
