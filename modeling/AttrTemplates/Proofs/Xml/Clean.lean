import AttrTemplates.Proofs.Xml.Attributes
import AttrTemplates.Proofs.Xml.Unprefixed

/-!
# `AttrTemplates.Proofs.Xml.Clean`: trees that a document may hold

A tree is clean if a document may hold its texts and its attributes. What is read is clean
(`Source.isClean_root`), and it stays clean wherever it is moved, in copies too: names change there,
and references to entities come to stand for other texts, but no text is added.
-/

set_option autoImplicit false

namespace AttrTemplates.Xml

/-- A document may hold all texts and all attributes in a node. -/
structure Node.IsClean (n : Node) : Prop where
  isLegal : n.isLegal = true
  attributes : ∀ a ∈ n.attributes, a.isLegal = true

/-- A document may hold all attributes of a tag. -/
def Tag.IsClean (t : Tag) : Prop := ∀ a ∈ t.attributes, a.isLegal = true

/-- Nodes are legal if each of them is. -/
theorem areLegal_iff {ns : List Node} : areLegal ns = true ↔ ∀ n ∈ ns, n.isLegal = true := by
  induction ns with
  | nil => exact ⟨(fun _ _ hn => nomatch hn), fun _ => rfl⟩
  | cons n ns ih => rw [areLegal, Bool.and_eq_true, ih, List.forall_mem_cons]

/-- A property of all attributes in nodes is one of all attributes in each. -/
theorem forall_mem_attributesList {P : Attribute → Prop} {ns : List Node} :
    (∀ a ∈ attributesList ns, P a) ↔ ∀ n ∈ ns, ∀ a ∈ n.attributes, P a := by
  rw [attributesList_eq_flatMap]
  simp only [List.mem_flatMap]
  constructor
  · intro h n hn a ha
    exact h a ⟨n, hn, ha⟩
  · rintro h a ⟨n, hn, ha⟩
    exact h n hn a ha

/-- An element is clean if its attributes are legal and its children are clean. -/
theorem Node.isClean_element_iff {tag : Tag} {children : List Node} :
    (Node.element tag children).IsClean ↔
      tag.IsClean ∧ ∀ n ∈ children, n.IsClean := by
  constructor
  · intro h
    have hattributes := List.forall_mem_append.mp h.attributes
    refine ⟨hattributes.1, fun n hn => ⟨areLegal_iff.mp h.isLegal n hn, ?_⟩⟩
    exact forall_mem_attributesList.mp hattributes.2 n hn
  · rintro ⟨hattributes, hchildren⟩
    refine ⟨areLegal_iff.mpr fun n hn => (hchildren n hn).isLegal, ?_⟩
    refine List.forall_mem_append.mpr ⟨hattributes, forall_mem_attributesList.mpr fun n hn => ?_⟩
    exact (hchildren n hn).attributes

/-- A legal text is clean, as it has no attributes. -/
theorem Node.isClean_text {s : String} (h : isLegalText s = true) : (Node.text s).IsClean :=
  ⟨h, fun _ ha => nomatch ha⟩

/-- The root of a document that was read is clean. -/
theorem Source.isClean_root {d : Dialect} {source : Source} {document : Document}
    (h : source.read d = .ok document) : document.root.IsClean :=
  ⟨(Source.isSound_root h).isLegal, Source.isLegal_attributes h⟩

/-! ### Moves -/

mutual

/-- Texts do not depend on prefixes. -/
theorem Node.isLegal_unprefixed : (n : Node) → n.unprefixed.isLegal = n.isLegal
  | .element _ children => areLegal_unprefixedList children
  | .comment .. => rfl
  | .instruction .. => rfl
  | .reference _ => rfl
  | .text _ => rfl

/-- The same for lists of nodes. -/
theorem areLegal_unprefixedList : (ns : List Node) → areLegal (unprefixedList ns) = areLegal ns
  | [] => rfl
  | n :: ns => by
    rw [unprefixedList, areLegal, areLegal, n.isLegal_unprefixed, areLegal_unprefixedList ns]

end

mutual

/-- The attributes in a node without prefixes are its attributes without prefixes. -/
theorem Node.attributes_unprefixed :
    (n : Node) → n.unprefixed.attributes = n.attributes.map Attribute.unprefixed
  | .element tag children => by
    rw [Node.unprefixed, Node.attributes, Node.attributes, List.map_append,
      attributesList_unprefixedList children]
    rfl
  | .comment .. => rfl
  | .instruction .. => rfl
  | .reference _ => rfl
  | .text _ => rfl

/-- The same for lists of nodes. -/
theorem attributesList_unprefixedList : (ns : List Node) →
    attributesList (unprefixedList ns) = (attributesList ns).map Attribute.unprefixed
  | [] => rfl
  | n :: ns => by
    rw [unprefixedList, attributesList, attributesList, List.map_append, n.attributes_unprefixed,
      attributesList_unprefixedList ns]

end

/-- Prefixes do not matter. -/
theorem Node.isClean_unprefixed_iff {n : Node} : n.unprefixed.IsClean ↔ n.IsClean := by
  have hattributes : (∀ a ∈ n.unprefixed.attributes, a.isLegal = true) ↔
      ∀ a ∈ n.attributes, a.isLegal = true := by
    rw [n.attributes_unprefixed, List.forall_mem_map]
    rfl
  constructor
  · exact fun h => ⟨n.isLegal_unprefixed ▸ h.isLegal, hattributes.mp h.attributes⟩
  · exact fun h => ⟨n.isLegal_unprefixed.trans h.isLegal, hattributes.mpr h.attributes⟩

/-- Nodes are clean with prefixes or without. -/
theorem areClean_unprefixedList_iff {ns : List Node} :
    (∀ n ∈ unprefixedList ns, n.IsClean) ↔ ∀ n ∈ ns, n.IsClean := by
  rw [unprefixedList_eq_map, List.forall_mem_map]
  exact forall₂_congr fun _ _ => Node.isClean_unprefixed_iff

/-! ### Copies -/

/-- A legal attribute stays so when its value is expanded, since its parts are legal. -/
theorem Attribute.isLegal_expanded {a : Attribute} (h : a.isLegal = true) :
    a.expanded.isLegal = true := by
  unfold Attribute.expanded
  split
  · exact h
  · obtain ⟨-, hparts⟩ := Bool.and_eq_true_iff.mp h
    exact Bool.and_eq_true_iff.mpr
      ⟨isLegalText_join_expanded (List.all_eq_true.mp hparts), hparts⟩

/-- Copies of attributes have the same values. -/
theorem isLegal_copiedAttributes {as : List Attribute} (h : ∀ a ∈ as, a.isLegal = true)
    (inner : Scope) (added : List Binding) :
    ∀ a ∈ (copiedAttributes inner added as).1, a.isLegal = true := by
  induction as generalizing added with
  | nil => exact fun _ ha => nomatch ha
  | cons a as ih =>
    obtain ⟨ha, has⟩ := List.forall_mem_cons.mp h
    exact List.forall_mem_cons.mpr ⟨a.isLegal_unexpanded ha, ih has _⟩

mutual

/-- A copy of a clean node is clean. -/
theorem Node.isClean_copied (inner : Scope) (added : List Binding) :
    (n : Node) → n.IsClean → (n.copied inner added).1.IsClean
  | .element _ children, h => by
    obtain ⟨hattributes, hchildren⟩ := Node.isClean_element_iff.mp h
    exact Node.isClean_element_iff.mpr
      ⟨isLegal_copiedAttributes hattributes _ _, isClean_copiedList _ _ children hchildren⟩
  | .comment .., _ => ⟨rfl, fun _ ha => nomatch ha⟩
  | .instruction .., _ => ⟨rfl, fun _ ha => nomatch ha⟩
  | .reference _, h => h
  | .text _, h => h

/-- The same for lists of nodes. -/
theorem isClean_copiedList (inner : Scope) (added : List Binding) : (ns : List Node) →
    (∀ n ∈ ns, n.IsClean) → ∀ n ∈ (copiedList inner added ns).1, n.IsClean
  | [], _ => fun _ hn => nomatch hn
  | n :: ns, h => by
    obtain ⟨hn, hns⟩ := List.forall_mem_cons.mp h
    exact List.forall_mem_cons.mpr ⟨n.isClean_copied _ _ hn, isClean_copiedList _ _ ns hns⟩

end

/-- A copy of a clean element is clean. -/
theorem Element.isClean_standalone {e : Element} (h : e.toNode.IsClean) :
    e.standalone.toNode.IsClean := by
  have hcopied := e.toNode.isClean_copied [] [] h
  unfold standalone
  split
  · rename_i tag children added hcopy
    rw [hcopy] at hcopied
    obtain ⟨hattributes, hchildren⟩ :=
      Node.isClean_element_iff.mp (show (Node.element tag children).IsClean from hcopied)
    exact Node.isClean_element_iff.mpr ⟨hattributes, hchildren⟩
  · exact h

mutual

/-- A clean node stays so when its values are expanded. -/
theorem Node.isClean_withExpansions : (n : Node) → n.IsClean → n.withExpansions.IsClean
  | .element _ children, h => by
    obtain ⟨hattributes, hchildren⟩ := Node.isClean_element_iff.mp h
    refine Node.isClean_element_iff.mpr ⟨?_, isClean_withExpansionsList children hchildren⟩
    exact List.forall_mem_map.mpr fun a ha => a.isLegal_expanded (hattributes a ha)
  | .comment .., h => h
  | .instruction .., h => h
  | .reference _, h => h
  | .text _, h => h

/-- The same for lists of nodes. -/
theorem isClean_withExpansionsList : (ns : List Node) → (∀ n ∈ ns, n.IsClean) →
    ∀ n ∈ withExpansionsList ns, n.IsClean
  | [], _ => fun _ hn => nomatch hn
  | n :: ns, h => by
    obtain ⟨hn, hns⟩ := List.forall_mem_cons.mp h
    exact List.forall_mem_cons.mpr
      ⟨n.isClean_withExpansions hn, isClean_withExpansionsList ns hns⟩

end

/-! ### Attributes of one element -/

/-- An attribute may be taken off. -/
theorem Tag.IsClean.withoutAttribute {t : Tag} (h : t.IsClean) (key : String) :
    (t.withoutAttribute key).IsClean :=
  fun a ha => h a (List.mem_filter.mp ha).1

/-- An attribute may be set to a legal value. -/
theorem Tag.IsClean.withAttribute {t : Tag} (h : t.IsClean) (name : Name) {value : String}
    (hvalue : isLegalText value = true) : (t.withAttribute name value).IsClean := by
  have hnew : Attribute.isLegal { name, value } = true := Bool.and_eq_true_iff.mpr ⟨hvalue, rfl⟩
  unfold IsClean Tag.withAttribute
  split
  · refine List.forall_mem_map.mpr fun a ha => ?_
    split
    · exact hnew
    · exact h a ha
  · exact List.forall_mem_append.mpr ⟨h, List.forall_mem_singleton.mpr hnew⟩

end AttrTemplates.Xml
