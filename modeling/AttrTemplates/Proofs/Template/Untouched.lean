import AttrTemplates.Proofs.Template.Spliced
import AttrTemplates.Proofs.Template.Undirected
import AttrTemplates.Proofs.Xml.Attributes
import AttrTemplates.Template.Edits

/-!
# `AttrTemplates.Proofs.Template.Untouched`: parts that no language has a say in

Languages reach a node through attributes in their namespaces and in no other way. Where a node
has none, at whatever depth, the walker only goes through it: no handler is asked, nothing is
noted, no context changes and every node stays.

* `processNode_of_foreign` says so of an element, as an equation between steps: processing it is
  answering that it stays, unless it is nested too deep to be gone through.
* `foreign_untouched` says so of a node anywhere in a tree.

It does not matter what the languages are, or what their handlers would do.
-/

set_option autoImplicit false

namespace AttrTemplates

open Xml Run

/-! ### Attributes of no language -/

/-- An attribute in the namespace of none of the languages. -/
def Xml.Attribute.Foreign (languages : List Language) (a : Attribute) : Prop :=
  ∀ l ∈ languages, a.name.uri? ≠ some l.uri

/-- Whether an attribute is foreign is decided by the namespaces of the languages. -/
instance (languages : List Language) (a : Attribute) : Decidable (a.Foreign languages) :=
  inferInstanceAs (Decidable (∀ l ∈ languages, a.name.uri? ≠ some l.uri))

section

variable {languages : List Language} {ev : Expr.Evaluator} {walk : Walk} {fuel : Nat}
  {scope : Scope} {locals : Entries}

/-! ### Elements and nodes -/

/-- Foreign attributes do not wait to be handled. -/
theorem pendingOn_of_foreign {tag : Tag} (h : ∀ a ∈ tag.attributes, a.Foreign languages) :
    pendingOn languages tag = [] := by
  unfold pendingOn
  generalize tag.attributes = as at h
  induction as with
  | nil => rfl
  | cons a as ih =>
    obtain ⟨ha, has⟩ := List.forall_mem_cons.mp h
    rw [List.foldl_cons]
    -- An attribute without a namespace is no directive, and the one with a namespace has that of no
    -- language.
    cases huri : a.name.uri? with
    | none => exact ih has
    | some uri =>
      have hnone : languages.any (·.uri == uri) = false := by
        rw [List.any_eq_false]
        intro l hl hsame
        exact ha l hl (huri.trans (congrArg some (beq_iff_eq.mp hsame).symm))
      dsimp only
      rw [hnone]
      exact ih has

/-- Where nothing waits no language is asked. -/
theorem handleLanguages_of_nothing (site : Site) (ls : List Language) :
    handleLanguages ev walk site [] ls = pure (.on site) := by
  induction ls with
  | nil => rfl
  | cons l ls ih => exact ih

/-- What elements are left as they are make nodes that are. -/
private theorem walkNodes_of_foreign_elements {ns : List Node}
    (hwalk : ∀ tag children, .element tag children ∈ ns →
      walk ⟨⟨tag, children⟩, scope, locals⟩ =
        if (Node.element tag children).height ≤ fuel then pure (.stays ⟨tag, children⟩ locals)
        else throw .nestingTooDeep) :
    walkNodes walk scope locals ns
      = if heightList ns ≤ fuel then pure ns else throw .nestingTooDeep := by
  induction ns with
  | nil => rfl
  | cons n ns ih =>
    have hrest := ih fun tag children hmem => hwalk tag children (List.mem_cons_of_mem n hmem)
    -- Nothing happens on the way, so it makes no difference which of the nodes is too deep.
    rw [heightList]
    cases n with
    | element tag children =>
      rw [walkNodes, hwalk tag children List.mem_cons_self, hrest]
      by_cases hhere : (Node.element tag children).height ≤ fuel
      · by_cases hbehind : heightList ns ≤ fuel
        · rw [if_pos hhere, if_pos hbehind, if_pos (Nat.max_le.mpr ⟨hhere, hbehind⟩)]
          rfl
        · rw [if_pos hhere, if_neg hbehind, if_neg fun h => hbehind (Nat.max_le.mp h).2]
          rfl
      · rw [if_neg hhere, if_neg fun h => hhere (Nat.max_le.mp h).1]
        rfl
    | comment | instruction | reference | text =>
      show (walkNodes walk scope locals ns >>= fun rest => pure (_ :: rest))
        = if max 0 (heightList ns) ≤ fuel then _ else _
      rw [hrest, Nat.zero_max]
      split <;> rfl

/-- Processing an element in which all attributes are foreign is answering that it stays. Only its
depth can keep it from being processed. -/
theorem processNode_of_foreign {e : Element}
    (h : ∀ a ∈ e.toNode.attributes, a.Foreign languages) :
    processNode languages ev fuel ⟨e, scope, locals⟩
      = if e.toNode.height ≤ fuel then pure (.stays e locals) else throw .nestingTooDeep := by
  -- By induction on the nesting that is allowed. Each level of the element uses up one.
  induction fuel generalizing e scope with
  | zero => exact (if_neg (Nat.not_succ_le_zero _)).symm
  | succ fuel ih =>
    obtain ⟨tag, children⟩ := e
    obtain ⟨htag, hchildren⟩ := List.forall_mem_append.mp h
    have hwalk : walkNodes (processNode languages ev fuel) (tag.frame :: scope) locals children
        = if heightList children ≤ fuel then pure children else throw .nestingTooDeep := by
      refine walkNodes_of_foreign_elements fun tag' children' hmem => ih fun a ha => ?_
      refine hchildren a ?_
      rw [attributesList_eq_flatMap]
      exact List.mem_flatMap.mpr ⟨_, hmem, ha⟩
    show processWith languages ev _ _ = _
    unfold processWith
    rw [pendingOn_of_foreign htag, handleLanguages_of_nothing]
    show (walkNodes _ (tag.frame :: scope) locals children >>= fun out =>
      pure (.stays ⟨tag, out⟩ locals) : Run Reply) = _
    rw [hwalk, Element.toNode, Node.height]
    simp only [Nat.add_le_add_iff_right]
    split <;> rfl

/-- The same for the nodes of a list. -/
theorem walkNodes_of_foreign {ns : List Node}
    (h : ∀ a ∈ attributesList ns, a.Foreign languages) :
    walkNodes (processNode languages ev fuel) scope locals ns
      = if heightList ns ≤ fuel then pure ns else throw .nestingTooDeep := by
  refine walkNodes_of_foreign_elements fun tag children hmem =>
    processNode_of_foreign fun a ha => h a ?_
  rw [attributesList_eq_flatMap]
  exact List.mem_flatMap.mpr ⟨_, hmem, ha⟩

end

/-! ### The standard language -/

namespace Xml

/-- On a tag without a mark no attribute belongs to the standard language. -/
theorem Tag.uri_ne_of_unmarked {t : Tag} (h : t.marks = []) :
    ∀ a ∈ t.attributes, a.name.uri? ≠ some standardUri := by
  intro a ha huri
  have hmem : (a.name.localName, a.value) ∈ t.waiting :=
    List.mem_map.mpr ⟨a, List.mem_filter.mpr ⟨ha, beq_iff_eq.mpr huri⟩, rfl⟩
  rw [Tag.marks_eq_nil_iff.mp h] at hmem
  cases hmem

mutual

/-- By recursion on the node: without marks, none of its attributes is in the standard namespace. -/
theorem Node.uri_ne_of_unmarked :
    (n : Node) → n.marks = [] → ∀ a ∈ n.attributes, a.name.uri? ≠ some standardUri
  | .element tag children, h => by
    obtain ⟨htag, hchildren⟩ := List.append_eq_nil_iff.mp h
    exact List.forall_mem_append.mpr ⟨Tag.uri_ne_of_unmarked htag,
      uri_ne_of_unmarkedList children hchildren⟩
  | .comment .., _ => fun _ ha => nomatch ha
  | .instruction .., _ => fun _ ha => nomatch ha
  | .reference _, _ => fun _ ha => nomatch ha
  | .text _, _ => fun _ ha => nomatch ha

/-- The same for lists of nodes. -/
theorem uri_ne_of_unmarkedList :
    (ns : List Node) → marksList ns = [] → ∀ a ∈ attributesList ns, a.name.uri? ≠ some standardUri
  | [], _ => fun _ ha => nomatch ha
  | n :: ns, h => by
    obtain ⟨hn, hns⟩ := List.append_eq_nil_iff.mp h
    exact List.forall_mem_append.mpr ⟨n.uri_ne_of_unmarked hn, uri_ne_of_unmarkedList ns hns⟩

end

end Xml

/-- What is unmarked is foreign to the standard language. -/
theorem foreign_of_unmarked {l : Language} (hl : l.uri = standardUri) {ns : List Node}
    (h : marksList ns = []) : ∀ a ∈ attributesList ns, a.Foreign [l] :=
  fun a ha => List.forall_mem_singleton.mpr (hl ▸ uri_ne_of_unmarkedList ns h a ha)

/-! ### Nodes anywhere in a tree -/

/-- What no language has a say in is left alone. Where no attribute of a node or of what is inside
it is in the namespace of a language, processing the node answers that the node stays, and does
nothing else: the whole tree around it and in it is as it was, and so are the contexts and the
notes. The only obstacle can be how deep the nesting is. -/
theorem foreign_untouched {languages : List Language} {ev : Expr.Evaluator} {fuel : Nat}
    {locals : Entries} {root : Element} {scope outer : Scope} {path : List Nat} {n : Node}
    (behind : List Node) {tail : List Node}
    (hnode : Sight.descend? ⟨root.toNode, behind, scope⟩ path = some ⟨n, tail, outer⟩)
    (hforeign : ∀ a ∈ n.attributes, a.Foreign languages) :
    processAt (processNode languages ev fuel) locals root scope path
      = if n.height ≤ fuel then pure (some ⟨root, [.itself]⟩) else throw .nestingTooDeep := by
  -- By induction on the way down to the node.
  induction path generalizing root scope behind with
  | nil =>
    obtain rfl : root.toNode = n := congrArg Sight.node (Option.some.inj hnode)
    rw [processAt_nil, processNode_of_foreign hforeign]
    split <;> rfl
  | cons i path ih =>
    rw [descend?_cons] at hnode
    obtain ⟨⟨front, node, after⟩, hchild, hnode⟩ := Option.bind_eq_some_iff.mp hnode
    have hroot : { root with children := front ++ [node] ++ after } = root := by
      rw [List.append_assoc, List.singleton_append, ← childAt?_eq hchild]
    have hstays : (pure (some ⟨{ root with children := front ++ [node] ++ after }, [.itself]⟩) :
        Run (Option Placed)) = pure (some ⟨root, [.itself]⟩) := by rw [hroot]
    unfold processAt
    simp only [hchild]
    cases path with
    | nil =>
      obtain rfl : node = n := congrArg Sight.node (Option.some.inj hnode)
      cases node with
      | element tag children =>
        simp only [Node.element?]
        rw [processNode_of_foreign (e := ⟨tag, children⟩) hforeign, Element.toNode]
        split
        · exact hstays
        · rfl
      | comment | instruction | reference | text => rfl
    | cons k path =>
      obtain ⟨child, rfl⟩ : ∃ child : Element, node = child.toNode := by
        cases node with
        | element tag children => exact ⟨⟨tag, children⟩, rfl⟩
        | comment | instruction | reference | text => cases hnode
      simp only [Element.toNode, Node.element?]
      rw [ih _ hnode]
      split
      · exact hstays
      · rfl

/-- A section with a figure that no language has a say in, beside a directive. -/
def figureSection : Element where
  tag := ⟨.plain "section", [standardAttribute "define" "n 1"], [], some 1⟩
  children := [.text "As shown ",
    .element ⟨.plain "figure", [⟨.plain "class", "wide", []⟩, ⟨.plain "id", "f1", []⟩], [], some 1⟩
      [.comment " drawn by hand " (some 1), .text "one ", .reference "hellip",
        .element ⟨⟨some ⟨some "v", "urn:vector"⟩, "path"⟩,
          [⟨⟨some ⟨some "v", "urn:vector"⟩, "d"⟩, "M0 0", []⟩],
          [⟨some "v", "urn:vector"⟩], some 1⟩ [],
        .text " two", .instruction "render" (some "fast") (some 1)],
    .text " here",
    .element ⟨.plain "b", [standardAttribute "content" "n"], [], some 1⟩ []]

/-- A section with a figure in it, of which neither language knows anything. -/
theorem foreign_untouched_figureSection :
    processAt (processNode [.standard, .usualEdits 0] .standard 2) []
      figureSection [] [0] = pure (some ⟨figureSection, [.itself]⟩) :=
  (foreign_untouched [] rfl (by decide)).trans (if_pos (by decide))

end AttrTemplates
