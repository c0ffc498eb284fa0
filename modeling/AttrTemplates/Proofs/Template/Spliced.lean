import AttrTemplates.Proofs.Template.Handling
import AttrTemplates.Proofs.Template.Placement
import AttrTemplates.Template.Basic
import AttrTemplates.Xml.Place

/-!
# `AttrTemplates.Proofs.Template.Spliced`: what is put into a parent

An element that has a parent is processed in its place: what stands for it is put among the
children of the parent. An element that stands alone is processed the same way, and what stands
for it is just returned. Putting things into a place changes how they are written. Names take
prefixes that are in force there, and a reference to an entity in an attribute of a copy gets its
text back. `essence` leaves that out.

* `essence_place`: the nodes in the place of an element are what its reply returns;
* `splice_agrees` says it of an element anywhere in a tree. Between what was before the element
  and the text that was behind it stands what processing returns for the element alone, and the
  rest of the tree is as it was;
* `splice_rewrites_names_and_references` shows that `essence` cannot be left out there.
-/

set_option autoImplicit false

namespace AttrTemplates

open Xml Run

/-! ### Content up to the way it is written -/

namespace Xml

/-- References in values are expanded node by node. -/
theorem withExpansionsList_eq_map (ns : List Node) :
    withExpansionsList ns = ns.map Node.withExpansions := by
  induction ns with
  | nil => rfl
  | cons n ns ih => rw [withExpansionsList, ih, List.map_cons]

/-- Content as it compares with other content: names without their prefixes, and attributes with
the texts that references in them stand for. -/
def essence (ns : List Node) : List Node := withExpansionsList (unprefixedList ns)

/-- The essence of nodes is that of each of them. -/
theorem essence_append (ms ns : List Node) : essence (ms ++ ns) = essence ms ++ essence ns := by
  unfold essence
  rw [unprefixedList_append, withExpansionsList_eq_map, withExpansionsList_eq_map,
    withExpansionsList_eq_map, List.map_append]

/-- Nothing but nothing has no essence. -/
theorem essence_eq_nil_iff {ns : List Node} : essence ns = [] ↔ ns = [] := by
  unfold essence
  rw [withExpansionsList_eq_map, unprefixedList_eq_map, List.map_eq_nil_iff, List.map_eq_nil_iff]

/-- Prefixes may be left out before values are expanded or afterwards. -/
theorem Attribute.expanded_unprefixed_expanded (a : Attribute) :
    a.expanded.unprefixed.expanded = a.unprefixed.expanded := by
  unfold Attribute.expanded Attribute.unprefixed
  cases h : a.spelling.isEmpty with
  | true => simp [h]
  | false => simp [h]

mutual

/-- The references of a node stand for the same texts once they stand for their texts. -/
theorem Node.withExpansions_unprefixed_withExpansions :
    (n : Node) → n.withExpansions.unprefixed.withExpansions = n.unprefixed.withExpansions
  | .element tag children => by
    have hattributes : ((tag.attributes.map Attribute.expanded).map Attribute.unprefixed).map
        Attribute.expanded = (tag.attributes.map Attribute.unprefixed).map Attribute.expanded := by
      simp only [List.map_map]
      exact List.map_congr_left fun a _ => a.expanded_unprefixed_expanded
    simp only [Node.withExpansions, Node.unprefixed, Tag.unprefixed, hattributes,
      withExpansionsList_unprefixedList children]
  | .comment .. => rfl
  | .instruction .. => rfl
  | .reference _ => rfl
  | .text _ => rfl

/-- The same for lists of nodes. -/
theorem withExpansionsList_unprefixedList :
    (ns : List Node) → withExpansionsList (unprefixedList (withExpansionsList ns))
      = withExpansionsList (unprefixedList ns)
  | [] => rfl
  | n :: ns => by
    simp only [withExpansionsList, unprefixedList, Node.withExpansions_unprefixed_withExpansions n,
      withExpansionsList_unprefixedList ns]

end

end Xml

/-! ### What a reply returns -/

/-- The nodes that an item brings along. The element itself is not brought along. -/
def Item.nodes : Item → List Node
  | .text s => [.text s]
  | .node n tail _ _ => n :: tail
  | .itself => []

/-- The content that items make. -/
def contentOf (items : List Item) : List Node := items.flatMap Item.nodes

/-- Contents are put together like the items they are of. -/
theorem contentOf_append (items items' : List Item) :
    contentOf (items ++ items') = contentOf items ++ contentOf items' :=
  List.flatMap_append

/-- The content that stands for an element that has no parent. -/
def Reply.content (reply : Reply) : List Node := contentOf reply.items

/-- Nodes are spread in the same way with prefixes or without. -/
theorem unprefixedList_spread (ns : List Node) :
    unprefixedList (spread ns) = spread (unprefixedList ns) := by
  unfold spread
  rw [unprefixedList_append, leadingText_unprefixedList, withoutLeadingText_unprefixedList]
  refine congrArg (· ++ _) ?_
  cases leadingText ns with
  | none => rfl
  | some s =>
    show unprefixedList (if s.isEmpty then [] else [.text s]) = if s.isEmpty then [] else [.text s]
    split <;> rfl

/-- What stands in the place of an item is in essence its nodes. -/
theorem essence_standing (inCopy : Bool) (self : Element) (item : Item) :
    withExpansionsList (item.standing inCopy self) = essence (item.resolve self).nodes := by
  -- Arriving from a copy is all that can have happened to the node.
  have harrival : ∀ (n : Node) (tail : List Node) (origin : Origin),
      withExpansionsList ((origin.arrival inCopy n).unprefixed :: unprefixedList tail)
        = essence (n :: tail) := by
    intro n tail origin
    unfold essence
    rw [unprefixedList, withExpansionsList, withExpansionsList]
    unfold Origin.arrival
    split
    · rw [n.withExpansions_unprefixed_withExpansions]
    · rfl
  cases item with
  | text s => rfl
  | node n tail origin outer => exact harrival n tail origin
  | itself => exact harrival self.toNode [] .here

/-- What stands in the place of an element is what its reply returns. -/
theorem Reply.essence_standing (inCopy : Bool) (reply : Reply) :
    withExpansionsList (reply.standing inCopy) = essence reply.content := by
  cases reply with
  | stays e locals => rfl
  | becomes left items =>
    show withExpansionsList (items.flatMap _) = essence (contentOf (items.map _))
    unfold contentOf
    induction items with
    | nil => rfl
    | cons item items ih =>
      rw [List.flatMap_cons, List.map_cons, List.flatMap_cons, essence_append, ← ih,
        ← AttrTemplates.essence_standing inCopy, withExpansionsList_eq_map,
        withExpansionsList_eq_map, withExpansionsList_eq_map, List.map_append]
  | opens left =>
    -- The text in front and the nodes with their tails are the content again, with text joined.
    have hcontent : contentOf (itemsOfContent .here [left.tag.frame] left.children)
        = spread left.children := by
      unfold contentOf
      rw [flatMap_itemsOfContent]
      exact congrArg (_ ++ ·) (flatMap_withTails left.children)
    show withExpansionsList (spread (unprefixedList left.children))
      = essence (contentOf (itemsOfContent .here [left.tag.frame] left.children))
    rw [hcontent, ← unprefixedList_spread]
    rfl

/-- The nodes that come to the place of an element are those that the reply returns. -/
theorem essence_place {scope : Scope} {reply : Reply} {nodes : List Node} {s s' : RunState}
    (h : (reply.place scope).Gives s nodes s') : essence nodes = essence reply.content := by
  unfold essence at *
  rw [(Reply.place_gives h).1]
  exact reply.essence_standing s.inCopy

/-! ### A child in its parent -/

namespace Xml

/-- An element is known by its node. -/
theorem Element.toNode_inj {e e' : Element} : e.toNode = e'.toNode ↔ e = e' := by
  constructor
  · intro h
    cases e
    cases h
    rfl
  · rintro rfl
    rfl

/-- A child with what stands before and behind it makes up the children. -/
theorem childAt?_eq {ns : List Node} {i : Nat} {hole : Hole} (h : childAt? ns i = some hole) :
    ns = hole.before ++ hole.node :: hole.after := by
  induction ns generalizing i hole with
  | nil => cases h
  | cons n ns ih =>
    have hbehind : ∀ {i}, (childAt? ns i).map (fun h => { h with before := n :: h.before })
        = some hole → n :: ns = hole.before ++ hole.node :: hole.after := by
      intro i h
      obtain ⟨inner, hinner, rfl⟩ := Option.map_eq_some_iff.mp h
      exact congrArg (n :: ·) (ih hinner)
    unfold childAt? at h
    split at h
    · exact hbehind h
    · cases i with
      | zero =>
        cases h
        rfl
      | succ i => exact hbehind h

/-- Another node in the place of a child is found where the child was. -/
theorem childAt?_replace {ns : List Node} {i : Nat} {hole : Hole}
    (h : childAt? ns i = some hole) {m : Node} (hm : m.isText = false) :
    childAt? (hole.before ++ m :: hole.after) i = some { hole with node := m } := by
  -- Text before the child is skipped, and the index counts down over the other nodes.
  induction ns generalizing i hole with
  | nil => cases h
  | cons n ns ih =>
    unfold childAt? at h
    split at h
    · rename_i hn
      obtain ⟨inner, hinner, rfl⟩ := Option.map_eq_some_iff.mp h
      simp only [List.cons_append, childAt?, hn, if_true, ih hinner, Option.map_some]
    · rename_i hn
      cases i with
      | zero =>
        cases h
        simp only [List.nil_append, childAt?, hm, Bool.false_eq_true, if_false]
      | succ i =>
        obtain ⟨inner, hinner, rfl⟩ := Option.map_eq_some_iff.mp h
        simp only [List.cons_append, childAt?, hn, Bool.false_eq_true, if_false, ih hinner,
          Option.map_some]

/-- Below an element lies what lies at or below one of its children. -/
theorem descend?_cons (e : Element) (tail : List Node) (scope : Scope) (i : Nat)
    (path : List Nat) :
    Sight.descend? ⟨e.toNode, tail, scope⟩ (i :: path)
      = (childAt? e.children i).bind fun hole => Sight.descend?
          ⟨hole.node, hole.after.takeWhile Node.isText, e.tag.frame :: scope⟩ path := by
  simp only [Sight.descend?, Element.toNode]
  cases childAt? e.children i with
  | none => rfl
  | some hole => rfl

/-- Going down along one address and then another is going down along both. -/
theorem descend?_append (sight : Sight) (path path' : List Nat) :
    sight.descend? (path ++ path') = (sight.descend? path).bind fun s => s.descend? path' := by
  induction path generalizing sight with
  | nil => rfl
  | cons i path ih =>
    obtain ⟨node, tail, scope⟩ := sight
    cases node with
    | element tag children =>
      have hcons := descend?_cons ⟨tag, children⟩ tail scope i
      simp only [Element.toNode] at hcons
      rw [List.cons_append, hcons, hcons, Option.bind_assoc]
      exact congrArg _ (funext fun hole => ih _)
    | comment | instruction | reference | text => rfl

/-- The child of an element is found one number further, with the text behind it. -/
theorem descend?_child {sight : Sight} {parent : Element} {tail : List Node} {outer : Scope}
    {path : List Nat} {i : Nat} {hole : Hole}
    (hparent : sight.descend? path = some ⟨parent.toNode, tail, outer⟩)
    (hchild : childAt? parent.children i = some hole) :
    sight.descend? (path ++ [i])
      = some ⟨hole.node, hole.after.takeWhile Node.isText, parent.tag.frame :: outer⟩ := by
  rw [descend?_append, hparent, Option.bind_some, descend?_cons, hchild]
  rfl

/-- An element is found at or below elements only. -/
theorem element_of_descend? {n : Node} {found : Element} {tail tail' : List Node}
    {scope scope' : Scope} {path : List Nat}
    (h : Sight.descend? ⟨n, tail, scope⟩ path = some ⟨found.toNode, tail', scope'⟩) :
    ∃ e : Element, n = e.toNode := by
  cases n with
  | element tag children => exact ⟨⟨tag, children⟩, rfl⟩
  | comment | instruction | reference | text =>
    cases path with
    | nil => exact nomatch congrArg Sight.node (Option.some.inj h)
    | cons i path => cases h

/-- An element in which another stands where child numbers lead to. Nothing else has changed. -/
def Element.replaceAt (e : Element) (path : List Nat) (new : Element) : Element :=
  match path with
  | [] => new
  | i :: path =>
    match childAt? e.children i with
    | some ⟨before, .element tag children, after⟩ =>
      { e with
        children := before ++ (Element.replaceAt ⟨tag, children⟩ path new).toNode :: after }
    | _ => e

/-- To replace something below a child is to replace the child. -/
theorem replaceAt_cons {e child : Element} {i : Nat} {before after : List Node}
    (h : childAt? e.children i = some ⟨before, child.toNode, after⟩) (path : List Nat)
    (new : Element) :
    e.replaceAt (i :: path) new
      = { e with children := before ++ (child.replaceAt path new).toNode :: after } := by
  simp only [Element.replaceAt, h]
  rfl

/-- The other element is what the child numbers lead to then. -/
theorem descend?_replaceAt {e found : Element} (new : Element) {tail tail' : List Node}
    {scope scope' : Scope} {path : List Nat}
    (h : Sight.descend? ⟨e.toNode, tail, scope⟩ path = some ⟨found.toNode, tail', scope'⟩) :
    Sight.descend? ⟨(e.replaceAt path new).toNode, tail, scope⟩ path
      = some ⟨new.toNode, tail', scope'⟩ := by
  induction path generalizing e tail scope with
  | nil =>
    simp only [Sight.descend?, Option.some.injEq, Sight.mk.injEq] at h ⊢
    exact ⟨rfl, h.2⟩
  | cons i path ih =>
    rw [descend?_cons] at h
    obtain ⟨⟨before, node, after⟩, hchild, h⟩ := Option.bind_eq_some_iff.mp h
    obtain ⟨child, rfl⟩ := element_of_descend? h
    have hnew := childAt?_replace (m := (child.replaceAt path new).toNode) hchild rfl
    rw [replaceAt_cons hchild, descend?_cons]
    dsimp only at hnew ⊢
    rw [hnew]
    exact ih h

end Xml

/-! ### Elements with and without a parent -/

/-- The content that stands where a node stood. -/
def Placed.content (placed : Placed) : List Node :=
  contentOf (placed.items.map (Item.resolve placed.root))

/-- Processes a node that stands alone, and returns what stands for it. Only elements are
processed. -/
def processAlone (walk : Walk) (locals : Entries) (scope : Scope) (n : Node) : Run (List Node) := do
  match n.element? with
  | none => pure [n]
  | some e =>
    let placed ← processAt walk locals e scope []
    pure (placed.elim [] Placed.content)

/-- What a reply leads to for an element that stands alone. -/
def Reply.placedAlone : Reply → Placed
  | .stays e _ => ⟨e, [.itself]⟩
  | .becomes left items => ⟨left, items⟩
  | .opens left =>
    ⟨{ left with children := withoutLeadingText left.children }, Reply.items (.opens left)⟩

/-- A reply placed alone has the content of the reply. -/
theorem Reply.content_placedAlone (reply : Reply) : reply.placedAlone.content = reply.content := by
  cases reply with
  | stays e locals => rfl
  | becomes left items => rfl
  | opens left =>
    -- Nothing in the items of opened content refers to the element.
    exact congrArg contentOf (map_resolve_of_not_itself (Reply.opens left).items_not_itself _)

/-- To process an element at the end of a path is to walk it. -/
theorem processAt_nil (walk : Walk) (locals : Entries) (e : Element) (scope : Scope) :
    processAt walk locals e scope []
      = walk ⟨e, scope, locals⟩ >>= fun reply => pure (some reply.placedAlone) := by
  rw [processAt]
  refine bind_congr fun reply => ?_
  cases reply <;> rfl

/-- What is returned for an element that stands alone is the content of its reply. -/
theorem processAlone_element_gives_iff {walk : Walk} {locals : Entries} {scope : Scope}
    {e : Element} {nodes : List Node} {s s' : RunState} :
    (processAlone walk locals scope e.toNode).Gives s nodes s' ↔
      ∃ reply, (walk ⟨e, scope, locals⟩).Gives s reply s' ∧ nodes = reply.content := by
  have helement : e.toNode.element? = some e := rfl
  simp only [processAlone, helement, processAt_nil, gives_bind_iff, gives_pure_iff]
  constructor
  · rintro ⟨_, _, ⟨reply, _, hreply, rfl, rfl⟩, rfl, rfl⟩
    exact ⟨reply, hreply, reply.content_placedAlone⟩
  · rintro ⟨reply, hreply, rfl⟩
    exact ⟨_, _, ⟨reply, _, hreply, rfl, rfl⟩, reply.content_placedAlone.symm, rfl⟩

section

variable {walk : Walk} {locals : Entries} {e : Element} {scope : Scope} {s s' : RunState}
  {placed : Placed}

/-- A child of an element is processed in its place: an element is, and what is returned for it
alone is put there. Any other node stays. -/
theorem processAt_child_gives {i : Nat}
    (h : (processAt walk locals e scope [i]).Gives s (some placed) s') :
    ∃ hole nodes returned s₁, childAt? e.children i = some hole ∧
      placed.root = { e with children := hole.before ++ nodes ++ hole.after } ∧
      (processAlone walk locals (e.tag.frame :: scope) hole.node).Gives s returned s₁ ∧
      s₁.SameButMade s' ∧ essence nodes = essence returned := by
  unfold processAt at h
  cases hchild : childAt? e.children i with
  | none =>
    rw [hchild] at h
    exact nomatch (gives_pure_iff.mp h).1
  | some hole =>
    obtain ⟨before, node, after⟩ := hole
    simp only [hchild] at h
    -- A node that is no element is what is returned for it, and nothing is done.
    cases hnode : node.element? with
    | none =>
      simp only [hnode] at h
      obtain ⟨hplaced, rfl⟩ := gives_pure_iff.mp h
      cases hplaced
      refine ⟨_, [node], [node], s', rfl, ?_, ?_, .rfl, rfl⟩
      · rw [List.append_assoc, List.singleton_append, ← childAt?_eq hchild]
      · simp only [processAlone, hnode]
        exact gives_pure_iff.mpr ⟨rfl, rfl⟩
    | some child =>
      obtain rfl : node = child.toNode := by
        cases node with
        | element tag children => cases hnode; rfl
        | comment | instruction | reference | text => cases hnode
      simp only [hnode, gives_bind_iff] at h
      obtain ⟨reply, s₁, hreply, nodes, s₂, hplace, h⟩ := h
      obtain ⟨hplaced, rfl⟩ := gives_pure_iff.mp h
      cases hplaced
      exact ⟨_, nodes, reply.content, s₁, rfl, rfl,
        processAlone_element_gives_iff.mpr ⟨reply, hreply, rfl⟩, (Reply.place_gives hplace).2.2,
        essence_place hplace⟩

/-- Further down, the child on the way has what is below it processed, and everything beside it
stays. -/
theorem processAt_cons_gives {j : Nat} {path : List Nat} (hpath : path ≠ [])
    (h : (processAt walk locals e scope (j :: path)).Gives s (some placed) s') :
    ∃ before child after inner, childAt? e.children j = some ⟨before, child.toNode, after⟩ ∧
      (processAt walk locals child (e.tag.frame :: scope) path).Gives s (some inner) s' ∧
      placed.root = { e with children := before ++ inner.root.toNode :: after } := by
  obtain ⟨k, path, rfl⟩ := List.exists_cons_of_ne_nil hpath
  rw [processAt] at h
  cases hchild : childAt? e.children j with
  | none =>
    rw [hchild] at h
    exact nomatch (gives_pure_iff.mp h).1
  | some hole =>
    obtain ⟨before, node, after⟩ := hole
    simp only [hchild] at h
    cases node with
    | element tag children =>
      simp only [Node.element?, gives_bind_iff] at h
      obtain ⟨inner, s₁, hinner, h⟩ := h
      -- A path that leads nowhere gives nothing, here as below.
      cases inner with
      | none => exact nomatch (gives_pure_iff.mp h).1
      | some inner =>
        obtain ⟨hplaced, rfl⟩ := gives_pure_iff.mp h
        cases hplaced
        refine ⟨before, ⟨tag, children⟩, after, inner, rfl, hinner, ?_⟩
        rw [← List.append_cons]
    | comment | instruction | reference | text => exact nomatch (gives_pure_iff.mp h).1

/-- Processing a node somewhere in a tree processes it alone, in the namespaces that are in force
at its place, and puts what that returns there. -/
theorem processAt_gives {path : List Nat} {i : Nat} (tail : List Node)
    (h : (processAt walk locals e scope (path ++ [i])).Gives s (some placed) s') :
    ∃ (parent : Element) (tail' : List Node) (outer : Scope) (hole : Hole)
        (nodes returned : List Node) (s₁ : RunState),
      Sight.descend? ⟨e.toNode, tail, scope⟩ path = some ⟨parent.toNode, tail', outer⟩ ∧
      childAt? parent.children i = some hole ∧
      placed.root
        = e.replaceAt path { parent with children := hole.before ++ nodes ++ hole.after } ∧
      (processAlone walk locals (parent.tag.frame :: outer) hole.node).Gives s returned s₁ ∧
      s₁.SameButMade s' ∧ essence nodes = essence returned := by
  -- By induction on the way down. The last step is to the child itself.
  induction path generalizing e scope tail placed with
  | nil =>
    obtain ⟨hole, nodes, returned, s₁, hchild, hroot, halone, hs₁, hnodes⟩ :=
      processAt_child_gives h
    exact ⟨e, tail, scope, hole, nodes, returned, s₁, rfl, hchild, hroot, halone, hs₁, hnodes⟩
  | cons j path ih =>
    obtain ⟨before, child, after, inner, hchild, hinner, hroot⟩ :=
      processAt_cons_gives (List.append_ne_nil_of_right_ne_nil path (List.cons_ne_nil i [])) h
    obtain ⟨parent, tail', outer, hole, nodes, returned, s₁, hparent, hhole, hinnerRoot, halone,
      hs₁, hnodes⟩ := ih (after.takeWhile Node.isText) hinner
    refine ⟨parent, tail', outer, hole, nodes, returned, s₁, ?_, hhole, ?_, halone, hs₁, hnodes⟩
    · rw [descend?_cons, hchild]
      exact hparent
    · rw [hroot, hinnerRoot, replaceAt_cons hchild]

end

/-- The splice agrees with what is returned. When a node that has a parent is processed, what
processing returns for the node alone is in the content of the parent afterwards, behind what was
before the node and in front of the text that was behind it and of all the rest. The content is the
same in its `essence`: names are compared by namespace and local part, declarations are left aside,
and references to entities in attributes count as the texts that they stand for. Nothing else in
the tree changes, and neither does it make a difference to the contexts or the notes that the node
has a parent. -/
theorem splice_agrees {languages : List Language} {ev : Expr.Evaluator} {fuel : Nat}
    {locals : Entries} {root : Element} {scope : Scope} {path : List Nat} {i : Nat}
    {s s' : RunState} {placed : Placed}
    (hrun : (processAt (processNode languages ev fuel) locals root scope (path ++ [i])).Gives s
      (some placed) s') :
    ∃ (parent : Element) (tail : List Node) (outer : Scope)
        (before : List Node) (node : Node) (tailText behind nodes returned : List Node)
        (s₁ : RunState),
      Sight.descend? ⟨root.toNode, [], scope⟩ path = some ⟨parent.toNode, tail, outer⟩ ∧
      childAt? parent.children i = some ⟨before, node, tailText ++ behind⟩ ∧
      Sight.descend? ⟨root.toNode, [], scope⟩ (path ++ [i])
        = some ⟨node, tailText, parent.tag.frame :: outer⟩ ∧
      (processAlone (processNode languages ev fuel) locals (parent.tag.frame :: outer) node).Gives s
        returned s₁ ∧
      s₁.SameButMade s' ∧
      placed.root = root.replaceAt path
        { parent with children := before ++ nodes ++ tailText ++ behind } ∧
      Sight.descend? ⟨placed.root.toNode, [], scope⟩ path = some
        ⟨.element parent.tag (before ++ nodes ++ tailText ++ behind), tail, outer⟩ ∧
      essence nodes = essence returned ∧
      runs (essence (before ++ nodes ++ tailText ++ behind))
        = runs (essence (before ++ returned ++ tailText ++ behind)) := by
  obtain ⟨parent, tail, outer, ⟨before, node, after⟩, nodes, returned, s₁, hparent, hchild, hroot,
    halone, hs₁, hnodes⟩ := processAt_gives [] hrun
  have hafter : after.takeWhile Node.isText ++ after.dropWhile Node.isText = after :=
    List.takeWhile_append_dropWhile
  rw [← hafter, ← List.append_assoc] at hroot
  refine ⟨parent, tail, outer, before, node, after.takeWhile Node.isText,
    after.dropWhile Node.isText, nodes, returned, s₁, hparent, ?_, ?_, halone, hs₁, hroot, ?_,
    hnodes, ?_⟩
  · -- The child was found in front of all that is behind it, its tail and the rest.
    rw [hafter, hchild]
  · exact descend?_child hparent hchild
  · rw [hroot]
    exact descend?_replaceAt _ hparent
  · simp only [essence_append, hnodes]

/-- A paragraph in which a tag is to be omitted. -/
def openedNote : Element where
  tag := ⟨.plain "p", [], [], some 1⟩
  children := [.text "one ",
    .element ⟨.plain "b", [standardAttribute "omit-tag" ""], [], some 1⟩
      [.text "two ", .element ⟨.plain "i", [], [], some 1⟩ [], .text "three"],
    .text " four", .element ⟨.plain "br", [], [], some 1⟩ []]

/-- A note whose tag is left out, in a document: what is returned for it is what comes to stand
there. -/
theorem splice_agrees_openedNote :
    ∃ (placed : Placed) (nodes returned : List Node) (s₁ s' : RunState),
      (processAt (processNode [.standard] .standard 3) [] openedNote [] ([] ++ [0])).Gives default
        (some placed) s' ∧
      (processAlone (processNode [.standard] .standard 3) [] [openedNote.tag.frame]
        (.element ⟨.plain "b", [standardAttribute "omit-tag" ""], [], some 1⟩
          [.text "two ", .element ⟨.plain "i", [], [], some 1⟩ [], .text "three"])).Gives default
        returned s₁ ∧
      placed.root.children = [.text "one "] ++ nodes
        ++ [.text " four", .element ⟨.plain "br", [], [], some 1⟩ []] ∧
      essence nodes = essence returned := by
  have hplaced : ((processAt (processNode [.standard] .standard 3) [] openedNote []
      ([] ++ [0])).run.run default).1.toOption.join.isSome = true := by decide +kernel
  obtain ⟨placed, s', hrun⟩ := exists_gives_some hplaced
  obtain ⟨parent, tail, outer, before, node, tailText, behind, nodes, returned, s₁, hparent,
    hchild, -, halone, -, hroot, -, hnodes, -⟩ := splice_agrees hrun
  -- The parent is the paragraph itself, and the child is its first.
  simp only [Sight.descend?, Option.some.injEq, Sight.mk.injEq] at hparent
  obtain ⟨hpath, rfl, rfl⟩ := hparent
  obtain rfl := Element.toNode_inj.mp hpath
  have hhole := hchild.symm.trans (show childAt? openedNote.children 0 = some _ from rfl)
  simp only [Option.some.injEq, Hole.mk.injEq] at hhole
  obtain ⟨rfl, rfl, hafter⟩ := hhole
  refine ⟨placed, nodes, returned, s₁, s', hrun, halone, ?_, hnodes⟩
  rw [hroot, Element.replaceAt, ← hafter, ← List.append_assoc]

/-- An element that is repeated without its tag. In it stands another, under a prefix that the
first declares, and refers to an entity in an attribute. -/
def referringCopy : Element where
  tag := ⟨.plain "b", [standardAttribute "repeat" "x xs", standardAttribute "omit-tag" ""],
    [⟨some "b", "urn:1"⟩], some 1⟩
  children := [.element ⟨⟨some ⟨some "b", "urn:1"⟩, "x"⟩,
    [{ name := .plain "title", value := "E", spelling := [.reference "e" "E"] }], [], some 1⟩ []]

/-- A paragraph that declares another prefix for the same namespace, with that element alone. -/
def referringParagraph : Element where
  tag := ⟨.plain "p", [], [⟨some "a", "urn:1"⟩], some 1⟩
  children := [referringCopy.toNode]

/-- A state with a list of one item. -/
def withOneItem : RunState where
  globals := [(.str "xs", .list [.str "u"])]
  events := []
  made := 0
  inCopy := false

/-- The names of the elements in content as they are written, each with its title. -/
def titlesIn (ns : List Node) : List (String × Option String) :=
  (tagsIn ns).map fun t => (t.name.written, t.attribute? "title")

/-- What is returned for an element that stands alone is written otherwise than what comes to its
place. A name has the prefix of the copy and not that of the parent, and the reference in an
attribute of a copy stands for no text. -/
theorem splice_rewrites_names_and_references :
    ∃ (placed : Placed) (returned : List Node) (s₁ s' : RunState),
      (processAt (processNode [.standard] .standard 4) [] referringParagraph [] [0]).Gives
        withOneItem (some placed) s' ∧
      (processAlone (processNode [.standard] .standard 4) [] [referringParagraph.tag.frame]
        referringCopy.toNode).Gives withOneItem returned s₁ ∧
      titlesIn returned = [("b:x", some "")] ∧
      titlesIn placed.root.children = [("a:x", some "E")] ∧
      runs placed.root.children ≠ runs returned := by
  have hplaced : ((processAt (processNode [.standard] .standard 4) [] referringParagraph []
      [0]).run.run withOneItem).1.toOption.map (·.map fun placed => titlesIn placed.root.children)
      = some (some [("a:x", some "E")]) := by decide +kernel
  have hreturned : ((processAlone (processNode [.standard] .standard 4) []
      [referringParagraph.tag.frame] referringCopy.toNode).run.run withOneItem).1.toOption.map
      titlesIn = some [("b:x", some "")] := by decide +kernel
  obtain ⟨placed, s', hrun, htitles⟩ := exists_gives_some_of_shown hplaced
  obtain ⟨returned, s₁, halone, htitles'⟩ := exists_gives_of_shown hreturned
  refine ⟨placed, returned, s₁, s', hrun, halone, htitles', htitles, ?_⟩
  refine runs_ne_of_tagsIn_ne fun htags => ?_
  have hsame : titlesIn placed.root.children = titlesIn returned := by
    rw [titlesIn, titlesIn, htags]
  rw [htitles, htitles'] at hsame
  exact absurd hsame (by decide)

end AttrTemplates
