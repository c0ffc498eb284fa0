import AttrTemplates.Template.Fragment

/-!
# `AttrTemplates.Proofs.Template.Leaves`: the values that lists and tuples arrange

Lists and tuples, nested at will, only arrange the values in them. These `leaves` are what makes up
the markup of a value.

* `fragment_eq` says that the items of a value are those of its leaves, one leaf after the other, and
  that the first leaf that is no markup keeps it from having any;
* `forall_fragment` is the induction that this saves: what holds of all content that is read, and of
  all copies of elements, holds of all items of a value.
-/

set_option autoImplicit false

namespace AttrTemplates

open Xml

/-! ### Leaves -/

mutual

/-- The values that a value arranges by lists and tuples, in order. -/
def Value.leaves : Value → List Value
  | .list items | .tuple items => leavesOfAll items
  | .parts _ items => leavesOfParts items
  | v => [v]

/-- The leaves of values, one after the other. -/
def leavesOfAll : List Value → List Value
  | [] => []
  | v :: vs => v.leaves ++ leavesOfAll vs

/-- The leaves of the named places of a tuple. -/
def leavesOfParts : List (String × Value) → List Value
  | [] => []
  | (_, v) :: vs => v.leaves ++ leavesOfParts vs

end

/-- The element that a value is. -/
def Value.element? : Value → Option Element
  | .node n => n.node.element?
  | _ => none

/-- Whether a value arranges no others. -/
def Value.isLeaf : Value → Bool
  | .list _ | .tuple _ | .parts .. => false
  | _ => true

/-- A value that holds no items is its own leaf. -/
theorem Value.leaves_of_other {v : Value} (hlist : ∀ items, v = .list items → False)
    (htuple : ∀ items, v = .tuple items → False)
    (hparts : ∀ name items, v = .parts name items → False) : v.leaves = [v] := by
  rw [leaves]
  · exact hlist
  · exact htuple
  · exact hparts

/-- Nothing among the leaves of a value holds items. -/
theorem isLeaf_of_mem_leaves (v : Value) : ∀ u ∈ v.leaves, u.isLeaf = true := by
  -- By the recursion of `leaves`, for values and for both kinds of lists of them at once.
  refine Value.leaves.induct
    (fun v => ∀ u ∈ v.leaves, u.isLeaf = true)
    (fun vs => ∀ u ∈ leavesOfParts vs, u.isLeaf = true)
    (fun vs => ∀ u ∈ leavesOfAll vs, u.isLeaf = true)
    ?list ?tuple ?parts ?other ?nil ?cons ?noParts ?part v
  case list =>
    intro vs ih
    rwa [Value.leaves]
  case tuple =>
    intro vs ih
    rwa [Value.leaves]
  case parts =>
    intro name vs ih
    rwa [Value.leaves]
  case other =>
    intro v hlist htuple hparts
    rw [Value.leaves_of_other hlist htuple hparts]
    refine List.forall_mem_singleton.mpr ?_
    unfold Value.isLeaf
    split
    · exact absurd rfl (hlist _)
    · exact absurd rfl (htuple _)
    · exact absurd rfl (hparts _ _)
    · rfl
  case nil => exact fun _ hu => nomatch hu
  case cons =>
    intro v vs ihv ihvs
    rw [leavesOfAll]
    exact List.forall_mem_append.mpr ⟨ihv, ihvs⟩
  case noParts => exact fun _ hu => nomatch hu
  case part =>
    intro name v vs ihv ihvs
    rw [leavesOfParts]
    exact List.forall_mem_append.mpr ⟨ihv, ihvs⟩

/-! ### One leaf after the other -/

/-- The items of values, one value after the other. -/
def joined (vs : List Value) : Except Failure (List Item) := (vs.mapM fragment).map List.flatten

/-- Values are joined one after the other. -/
theorem joined_cons (v : Value) (vs : List Value) : joined (v :: vs) = (do
    let here ← fragment v
    let rest ← joined vs
    pure (here ++ rest)) := by
  unfold joined
  rw [List.mapM_cons]
  cases fragment v with
  | error e => rfl
  | ok here =>
    cases vs.mapM fragment with
    | error e => rfl
    | ok rest => rfl

/-- One value joined is that value. -/
theorem joined_singleton (v : Value) : joined [v] = fragment v := by
  rw [joined_cons]
  cases fragment v with
  | error e => rfl
  | ok here =>
    show Except.ok (here ++ []) = .ok here
    rw [List.append_nil]

/-- Values may be joined in two parts. -/
theorem joined_append (us vs : List Value) : joined (us ++ vs) = (do
    let here ← joined us
    let rest ← joined vs
    pure (here ++ rest)) := by
  induction us with
  | nil =>
    rw [List.nil_append]
    cases joined vs with
    | error e => rfl
    | ok rest => rfl
  -- What goes wrong goes wrong in the first place where it can, on either side.
  | cons u us ih =>
    rw [List.cons_append, joined_cons, joined_cons, ih]
    cases fragment u with
    | error e => rfl
    | ok first =>
      cases joined us with
      | error e => rfl
      | ok here =>
        cases joined vs with
        | error e => rfl
        | ok rest =>
          show Except.ok (first ++ (here ++ rest)) = .ok (first ++ here ++ rest)
          rw [List.append_assoc]

/-- Lists and tuples only put the items of their leaves together. -/
theorem fragment_eq (v : Value) : fragment v = joined v.leaves := by
  -- The recursion of `fragment` distinguishes nodes from other leaves. For `leaves` they are the
  -- same.
  refine fragment.induct
    (fun v => fragment v = joined v.leaves)
    (fun vs => fragmentParts vs = joined (leavesOfParts vs))
    (fun vs => fragmentAll vs = joined (leavesOfAll vs))
    ?element ?node ?list ?tuple ?parts ?other ?nil ?cons ?noParts ?part v
  case element => exact fun n e _ => (joined_singleton (.node n)).symm
  case node => exact fun n _ => (joined_singleton (.node n)).symm
  case list =>
    intro vs ih
    rw [fragment, Value.leaves, ih]
  case tuple =>
    intro vs ih
    rw [fragment, Value.leaves, ih]
  case parts =>
    intro name vs ih
    rw [fragment, Value.leaves, ih]
  case other =>
    intro v hnode hlist htuple hparts
    rw [Value.leaves_of_other hlist htuple hparts, joined_singleton]
  case nil => rfl
  case cons =>
    intro v vs ihv ihvs
    rw [fragmentAll, leavesOfAll, joined_append, ihv, ihvs]
  case noParts => rfl
  case part =>
    intro name v vs ihv ihvs
    rw [fragmentParts, leavesOfParts, joined_append, ihv, ihvs]

/-- What holds of the items of each value holds of all of them. -/
theorem forall_joined {P : Item → Prop} {vs : List Value} {items : List Item}
    (hvs : ∀ v ∈ vs, ∀ part, fragment v = .ok part → ∀ item ∈ part, P item)
    (h : joined vs = .ok items) : ∀ item ∈ items, P item := by
  induction vs generalizing items with
  | nil =>
    cases h
    exact fun item hitem => nomatch hitem
  | cons v vs ih =>
    obtain ⟨hv, hvs⟩ := List.forall_mem_cons.mp hvs
    rw [joined_cons] at h
    cases hfirst : fragment v with
    | error e =>
      rw [hfirst] at h
      cases h
    | ok here =>
      cases hrest : joined vs with
      | error e =>
        rw [hfirst, hrest] at h
        cases h
      | ok rest =>
        rw [hfirst, hrest] at h
        cases h
        exact List.forall_mem_append.mpr ⟨hv here hfirst, ih hvs hrest⟩

/-! ### The items of a leaf -/

section

variable {u : Value}

/-- The fragment of an element is a copy of it with the text behind it. -/
theorem fragment_of_element {n : DocumentNode} {e : Element} (he : n.node.element? = some e) :
    fragment (.node n) = .ok [.node e.standalone.toNode n.tail (.other n.document.version) []] := by
  rw [fragment, he]

/-- The fragment of any other leaf is its text, read as content. -/
theorem fragment_of_leaf (hleaf : u.isLeaf = true) (he : u.element? = none) :
    fragment u = (do fragmentOfText (← u.written)) := by
  by_cases hnode : ∃ n, u = .node n
  · obtain ⟨n, rfl⟩ := hnode
    change n.node.element? = none at he
    rw [fragment, he]
    rfl
  · rw [fragment]
    · exact fun n hn => hnode ⟨n, hn⟩
    · rintro items rfl
      cases hleaf
    · rintro items rfl
      cases hleaf
    · rintro name items rfl
      cases hleaf

/-- A value that has an element is a node. -/
theorem exists_node_of_element? {e : Element} (he : u.element? = some e) :
    ∃ n, u = .node n ∧ n.node.element? = some e := by
  unfold Value.element? at he
  split at he
  · exact ⟨_, rfl, he⟩
  · cases he

end

section

variable {P : Item → Prop}
  (hcontent : ∀ origin ns, ∀ item ∈ itemsOfContent origin [] ns, P item)
  (helement : ∀ (e : Element) tail origin, P (.node e.toNode tail origin []))
include hcontent

/-- A property of text items, and of nodes from elsewhere, is one of all items in a fragment that
was read from text. -/
private theorem forall_fragmentOfText {content : String} {items : List Item}
    (h : fragmentOfText content = .ok items) : ∀ item ∈ items, P item := by
  unfold fragmentOfText at h
  split at h
  · split at h
    · cases h
      exact hcontent _ _
    · cases h
  · cases h

include helement

/-- What is inserted as markup is content that was read, and copies of elements. -/
theorem forall_fragment (v : Value) : ∀ items, fragment v = .ok items → ∀ item ∈ items, P item := by
  intro items h
  rw [fragment_eq] at h
  refine forall_joined (fun u hu part hpart => ?_) h
  have hleaf := isLeaf_of_mem_leaves v u hu
  -- A leaf is a node with an element, or its text is read as content.
  cases he : u.element? with
  | some e =>
    obtain ⟨n, rfl, hn⟩ := exists_node_of_element? he
    rw [fragment_of_element hn] at hpart
    cases hpart
    exact List.forall_mem_singleton.mpr (helement _ _ _)
  | none =>
    rw [fragment_of_leaf hleaf he] at hpart
    cases hwritten : u.written with
    | error e =>
      rw [hwritten] at hpart
      cases hpart
    | ok s =>
      rw [hwritten] at hpart
      exact forall_fragmentOfText hcontent hpart

end

end AttrTemplates
