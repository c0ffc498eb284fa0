import AttrTemplates.Proofs.Xml.Bound

/-!
# `AttrTemplates.Proofs.Xml.Needed`: what copies need, and copies of copies

What a copy needs from around it depends on the names in it alone, and names are the same in a copy
as in what was copied. So a copy of a copy needs what the first one needed, and at two places where
the same nodes are bound, what they need is declared alike.

* `Node.duplicate_duplicate`: to copy twice is to copy once.
* `Node.needs_duplicate`: a copy needs what its original needs.
* `Node.uri?_of_needs`: what is needed means the same wherever the node is bound.
-/

set_option autoImplicit false

namespace AttrTemplates.Xml

/-! ### Copies of copies -/

/-- Expansions are left out once. -/
theorem Attribute.unexpanded_unexpanded (a : Attribute) :
    a.unexpanded.unexpanded = a.unexpanded := by
  by_cases h : a.spelling.isEmpty = true
  · have hsame : a.unexpanded = a := if_pos h
    rw [hsame, hsame]
  · simp [Attribute.unexpanded, h]

/-- A duplicate is its own duplicate. -/
theorem Tag.duplicate_duplicate (t : Tag) : t.duplicate.duplicate = t.duplicate := by
  simp [Tag.duplicate, Attribute.unexpanded_unexpanded]

mutual

/-- To copy a copy changes nothing. -/
theorem Node.duplicate_duplicate : (n : Node) → n.duplicate.duplicate = n.duplicate
  | .element tag children => by
    simp only [Node.duplicate, tag.duplicate_duplicate, duplicateList_duplicateList children]
  | .comment .. => rfl
  | .instruction .. => rfl
  | .reference _ => rfl
  | .text _ => rfl

/-- The same for lists of nodes. -/
theorem duplicateList_duplicateList :
    (ns : List Node) → duplicateList (duplicateList ns) = duplicateList ns
  | [] => rfl
  | n :: ns => by
    simp only [duplicateList, Node.duplicate_duplicate n, duplicateList_duplicateList ns]

end

/-- Nodes are duplicated one by one. -/
theorem duplicateList_eq_map (ns : List Node) : duplicateList ns = ns.map Node.duplicate := by
  induction ns with
  | nil => rfl
  | cons n ns ih => rw [duplicateList, ih, List.map_cons]

/-- An element as it is in a copy. -/
def Element.duplicate (e : Element) : Element := ⟨e.tag.duplicate, duplicateList e.children⟩

/-- The duplicate of an element is that of its node. -/
theorem Element.toNode_duplicate (e : Element) : e.duplicate.toNode = e.toNode.duplicate := rfl

/-- A node that is bound is bound in a copy, too, if that stands where the node stood. -/
theorem Node.isBound_duplicate_here {scope : Scope} {n : Node} (h : n.isBound scope = true) :
    n.duplicate.isBound scope = true :=
  have hinner : Scope.BoundIn [] scope := trivial
  Node.isBound_duplicate hinner hinner n h fun _ _ => rfl

/-! ### What copies need -/

mutual

/-- Names are kept in copies, so a copy needs the same declarations. -/
theorem Node.needs_duplicate (inner : Scope) (p : Option String) :
    (n : Node) → n.duplicate.needs inner p = n.needs inner p
  | .element tag children => by
    rw [Node.duplicate, Node.needs, Node.needs, tag.names_duplicate]
    exact congrArg _ (anyNeeds_duplicateList (tag.frame :: inner) p children)
  | .comment .. => rfl
  | .instruction .. => rfl
  | .reference _ => rfl
  | .text _ => rfl

/-- Duplicates of nodes need the same bindings. -/
theorem anyNeeds_duplicateList (inner : Scope) (p : Option String) :
    (ns : List Node) → anyNeeds inner p (duplicateList ns) = anyNeeds inner p ns
  | [] => rfl
  | n :: ns => by
    rw [duplicateList, anyNeeds, anyNeeds, Node.needs_duplicate inner p n,
      anyNeeds_duplicateList inner p ns]

end

section

variable {inner outer outer' : Scope} {p : Option String}

/-- A name that lacks a declaration has the binding that the scope outside makes. -/
theorem Scope.uri?_of_lacks (hinner : inner.BoundIn outer) {f : Frame} {n : Name}
    (hn : n.binding.all (Scope.makes (f :: inner ++ outer)) = true)
    (hlacks : Scope.lacks (f :: inner) p n = true) : outer.uri? p = n.uri? := by
  unfold Scope.lacks at hlacks
  unfold Name.uri?
  cases hb : n.binding with
  | none =>
    rw [hb] at hlacks
    cases hlacks
  | some b =>
    rw [hb] at hn hlacks
    simp only [Option.any_some, Bool.and_eq_true, bne_iff_ne, beq_iff_eq,
      Option.isNone_iff_eq_none] at hlacks
    -- The prefix is declared nowhere in the inner frames, so the binding is that of the scope
    -- outside.
    obtain ⟨⟨hxml, hnamed⟩, hnone⟩ := hlacks
    simp only [Option.all_some, Scope.makes, Bool.or_eq_true, Bool.and_eq_true, bne_iff_ne,
      beq_iff_eq, hxml, false_or, hnamed] at hn
    obtain ⟨hp, huri⟩ := hn
    rw [hinner.uri?_cons_append f hp, hnone] at huri
    simpa using huri

mutual

/-- What a node needs from outside is declared alike in all scopes in which it is bound. -/
theorem Node.uri?_of_needs {inner : Scope} (hinner : inner.BoundIn outer)
    (hinner' : inner.BoundIn outer') :
    (n : Node) → n.isBound (inner ++ outer) = true → n.isBound (inner ++ outer') = true →
      n.needs inner p = true → outer.uri? p = outer'.uri? p
  | .element tag children, h, h', hneeds => by
    obtain ⟨htag, hchildren⟩ := Bool.and_eq_true_iff.mp h
    obtain ⟨htag', hchildren'⟩ := Bool.and_eq_true_iff.mp h'
    rcases Bool.or_eq_true_iff.mp hneeds with hname | hbelow
    · -- The name that lacks the declaration tells what it says.
      obtain ⟨n, hn, hlacks⟩ := List.any_eq_true.mp hname
      rw [Scope.uri?_of_lacks hinner (List.all_eq_true.mp htag n hn) hlacks,
        Scope.uri?_of_lacks hinner' (List.all_eq_true.mp htag' n hn) hlacks]
    · exact uri?_of_anyNeeds (hinner.cons htag) (hinner'.cons htag') children hchildren hchildren'
        hbelow
  | .comment .., _, _, hneeds => nomatch hneeds
  | .instruction .., _, _, hneeds => nomatch hneeds
  | .reference _, _, _, hneeds => nomatch hneeds
  | .text _, _, _, hneeds => nomatch hneeds

/-- By recursion on the nodes: a prefix that they need means the same in two scopes that bind them.
-/
theorem uri?_of_anyNeeds {inner : Scope} (hinner : inner.BoundIn outer)
    (hinner' : inner.BoundIn outer') :
    (ns : List Node) → areBound (inner ++ outer) ns = true →
      areBound (inner ++ outer') ns = true → anyNeeds inner p ns = true →
        outer.uri? p = outer'.uri? p
  | [], _, _, hneeds => nomatch hneeds
  | n :: ns, h, h', hneeds => by
    obtain ⟨hn, hns⟩ := Bool.and_eq_true_iff.mp h
    obtain ⟨hn', hns'⟩ := Bool.and_eq_true_iff.mp h'
    rcases Bool.or_eq_true_iff.mp hneeds with hfirst | hrest
    · exact Node.uri?_of_needs hinner hinner' n hn hn' hfirst
    · exact uri?_of_anyNeeds hinner hinner' ns hns hns' hrest

end

end

end AttrTemplates.Xml
