import AttrTemplates.Proofs.Xml.Content
import AttrTemplates.Template.Splice

/-!
# `AttrTemplates.Proofs.Xml.Unprefixed`: trees without the spelling of their names

What a name means is its namespace and its local part. The prefix it is written with, and the
declaration that gives the prefix its meaning, depend on the place a node stands at and change
when the node is moved. `Node.unprefixed` leaves both out.

* `unprefixed_adoptInto`: a move changes nothing else. The names of the moved tree keep their
  namespaces, whichever bindings they have to take at the new place.
* `leadingText_unprefixedList` and the lemmas beside it: what is text does not depend on prefixes.
* `Tag.unprefixed_withoutAttribute` and `Tag.unprefixed_withAttribute` are the same for the
  attributes of one tag.
-/

set_option autoImplicit false

namespace AttrTemplates.Xml

/-- A binding without its prefix. -/
def Binding.unprefixed (b : Binding) : Binding := ⟨none, b.uri⟩

/-- A name without its prefix. -/
def Name.unprefixed (n : Name) : Name := { n with binding := n.binding.map Binding.unprefixed }

/-- An attribute without the prefix of its name. -/
def Attribute.unprefixed (a : Attribute) : Attribute := { a with name := a.name.unprefixed }

/-- A tag without prefixes and without declarations. -/
def Tag.unprefixed (t : Tag) : Tag :=
  { t with
    name := t.name.unprefixed
    attributes := t.attributes.map Attribute.unprefixed
    declarations := [] }

mutual

/-- A node without prefixes and without declarations. -/
def Node.unprefixed : Node → Node
  | .element tag children => .element tag.unprefixed (unprefixedList children)
  | n => n

/-- Nodes without prefixes and without declarations. -/
def unprefixedList : List Node → List Node
  | [] => []
  | n :: ns => n.unprefixed :: unprefixedList ns

end

/-- Prefixes are left out node by node. -/
theorem unprefixedList_eq_map (ns : List Node) : unprefixedList ns = ns.map Node.unprefixed := by
  induction ns with
  | nil => rfl
  | cons n ns ih => rw [unprefixedList, ih, List.map_cons]

/-- Lists may be put together before prefixes are left out or afterwards. -/
theorem unprefixedList_append (ms ns : List Node) :
    unprefixedList (ms ++ ns) = unprefixedList ms ++ unprefixedList ns := by
  rw [unprefixedList_eq_map, unprefixedList_eq_map, unprefixedList_eq_map, List.map_append]

/-! ### Names -/

/-- The namespace of a name is not in its prefix. -/
theorem Name.uri?_unprefixed (n : Name) : n.unprefixed.uri? = n.uri? := by
  unfold Name.uri? Name.unprefixed
  rw [Option.map_map]
  rfl

/-- Neither is the key of a name, which is made of its namespace and local part. -/
theorem Name.clark_unprefixed (n : Name) : n.unprefixed.clark = n.clark := by
  unfold Name.clark
  rw [Name.uri?_unprefixed]
  rfl

/-- Names of the same form `{uri}local` that differ in nothing else are the same without their
prefixes. -/
theorem Name.unprefixed_eq {n m : Name} (huri : n.uri? = m.uri?)
    (hlocal : n.localName = m.localName) : n.unprefixed = m.unprefixed := by
  obtain ⟨b, l⟩ := n
  obtain ⟨c, k⟩ := m
  cases hlocal
  cases b with
  | none =>
    cases c with
    | none => rfl
    | some c => cases huri
  | some b =>
    cases c with
    | none => cases huri
    | some c =>
      have hbc : b.uri = c.uri := Option.some.inj huri
      simp only [Name.unprefixed, Option.map_some, Binding.unprefixed, hbc]

/-- The key of an attribute is the key of its name. -/
theorem Attribute.clark_unprefixed (a : Attribute) :
    a.unprefixed.name.clark = a.name.clark :=
  Name.clark_unprefixed a.name

/-! ### Bindings that a scope offers -/

/-- The binding that is offered for a namespace is one of that namespace. -/
theorem bindingBehind?_uri {uri : String} {hidden : List (Option String)} {scope : Scope}
    {b : Binding} (h : bindingBehind? uri hidden scope = some b) : b.uri = uri := by
  induction scope generalizing hidden with
  | nil => cases h
  | cons f outer ih =>
    rw [bindingBehind?] at h
    split at h
    · rename_i c hc
      cases h
      have := List.find?_some hc
      simp only [Bool.and_eq_true, beq_iff_eq] at this
      exact this.1
    · exact ih h

/-- So is the one that is inherited. -/
theorem Scope.inherited?_uri {scope : Scope} {uri : String} {b : Binding}
    (h : scope.inherited? uri = some b) : b.uri = uri := by
  unfold Scope.inherited? at h
  split at h
  · cases h
  · exact bindingBehind?_uri h

/-- A prefix means what the innermost frame declares it to, or else what it means outside. -/
theorem Scope.uri?_cons (f : Frame) (outer : Scope) (p : Option String) :
    Scope.uri? (f :: outer) p = (declared? f.declarations p).or (outer.uri? p) := by
  unfold Scope.uri?
  rw [List.findSome?_cons]
  cases declared? f.declarations p <;> rfl

/-- What is declared first counts. -/
theorem declared?_append (bs cs : List Binding) (p : Option String) :
    declared? (bs ++ cs) p = (declared? bs p).or (declared? cs p) := by
  unfold declared?
  rw [List.find?_append, Option.map_or]

/-- The bindings that a name of the nearest element can take, nearest first. -/
def Scope.candidates : Scope → List Binding
  | [] => []
  | f :: outer => f.declarations ++ outer.flatMap Frame.bindings

/-- The binding of a prefix is the first of the candidates with that prefix. -/
theorem Scope.binding?_eq_find? (scope : Scope) (nsPrefix : Option String) :
    scope.binding? nsPrefix = scope.candidates.find? (fun b => b.nsPrefix == nsPrefix) := by
  cases scope with
  | nil => rfl
  | cons f outer =>
    rw [Scope.candidates, List.find?_append, List.find?_flatMap]
    simp only [Scope.binding?, Option.orElse_eq_orElse, Option.orElse_eq_or]

/-- The binding for a namespace is the first of the candidates that has it, can be used for the kind
of name, and is not hidden by another one of its prefix. -/
theorem Scope.bindingFor?_eq_find? (scope : Scope) {uri : String} (needsPrefix : Bool)
    (huri : uri ≠ xmlNamespace) :
    scope.bindingFor? uri needsPrefix = scope.candidates.find? (fun b =>
      b.uri == uri && !(needsPrefix && b.nsPrefix.isNone)
        && scope.binding? b.nsPrefix == some b) := by
  unfold Scope.bindingFor?
  rw [if_neg (by simpa using huri)]
  cases scope with
  | nil => rfl
  | cons f outer =>
    rw [Scope.candidates, List.find?_append, List.find?_flatMap]
    simp only [Option.orElse_eq_orElse, Option.orElse_eq_or]

/-- The binding that is found for a namespace is one of that namespace. -/
theorem Scope.bindingFor?_uri {scope : Scope} {uri : String} {needsPrefix : Bool} {b : Binding}
    (h : scope.bindingFor? uri needsPrefix = some b) : b.uri = uri := by
  by_cases huri : uri = xmlNamespace
  · unfold Scope.bindingFor? at h
    rw [if_pos (by simpa using huri)] at h
    cases h
    exact huri.symm
  · rw [scope.bindingFor?_eq_find? needsPrefix huri] at h
    have hfits := List.find?_some h
    simp only [Bool.and_eq_true, beq_iff_eq] at hfits
    exact hfits.1.1

/-- A binding that is made up is one of the namespace it was made up for. -/
theorem newBinding_uri (scope : Scope) (wished : Option String) (uri : String)
    (made : Prefixes) : (newBinding scope wished uri made).1.uri = uri := by
  unfold newBinding
  split
  rfl

/-! ### Moves -/

/-- A renaming gives every binding one for the same namespace. -/
def Renaming.KeepsUris (r : Renaming) : Prop := ∀ p ∈ r, p.2.uri = p.1.uri

/-- Renaming the declarations of an element keeps their namespaces. -/
theorem keepsUris_renamingIn (scope : Scope) (declarations : List Binding) :
    (renamingIn scope declarations).KeepsUris := by
  intro p hp
  obtain ⟨b, -, rfl⟩ := List.mem_map.mp hp
  show ((scope.inherited? b.uri).getD b).uri = b.uri
  cases h : scope.inherited? b.uri with
  | none => rfl
  | some c => exact Scope.inherited?_uri h

/-- A binding that is looked up in a renaming has the namespace of the old one. -/
theorem Renaming.KeepsUris.lookup {r : Renaming} (hr : r.KeepsUris) {b c : Binding}
    (h : r.lookup b = some c) : c.uri = b.uri := by
  induction r with
  | nil => cases h
  | cons p r ih =>
    obtain ⟨k, v⟩ := p
    rw [List.lookup_cons] at h
    split at h
    · rename_i hk
      cases h
      rw [eq_of_beq hk]
      exact hr _ List.mem_cons_self
    · exact ih (fun q hq => hr q (List.mem_cons_of_mem _ hq)) h

/-- After a move a name has a binding for the namespace that it had before. -/
theorem Move.unprefixed_rebind (m : Move) {inner : List Renaming}
    (hinner : ∀ r ∈ inner, r.KeepsUris) (needsPrefix : Bool) (b : Option Binding) :
    (m.rebind inner needsPrefix b).1.map Binding.unprefixed = b.map Binding.unprefixed := by
  cases b with
  | none => rfl
  | some b =>
    rw [Move.rebind]
    -- The binding of `xml` stays. Any other is one that was renamed further in, one that holds
    -- around the new place, or a new one, and each of them has the namespace that was asked for.
    split
    · rfl
    · split
      · rename_i renamed h
        obtain ⟨hfound, -⟩ := Option.filter_eq_some_iff.mp h
        obtain ⟨r, hr, hlookup⟩ := List.exists_of_findSome?_eq_some hfound
        have huri := (hinner r hr).lookup hlookup
        simp only [Option.map_some, Binding.unprefixed, huri]
      · split
        · rename_i found h
          simp only [Option.map_some, Binding.unprefixed, Scope.bindingFor?_uri h]
        · simp only [Option.map_some, Binding.unprefixed, newBinding_uri]

/-- Attributes take their new bindings one after the other, and keep their namespaces. -/
theorem Move.unprefixed_rebindAttributes (m : Move) {inner : List Renaming}
    (hinner : ∀ r ∈ inner, r.KeepsUris) (as : List Attribute) :
    (m.rebindAttributes inner as).1.map Attribute.unprefixed = as.map Attribute.unprefixed := by
  induction as generalizing m with
  | nil => rfl
  | cons a as ih =>
    have hname := m.unprefixed_rebind hinner true a.name.binding
    simp only [Move.rebindAttributes, List.map_cons, ih]
    refine congrArg (· :: _) ?_
    simp only [Attribute.unprefixed, Name.unprefixed, hname]

mutual

/-- By recursion on the node: its name and attributes keep their namespaces by the renamings in
force, and its children are moved in the scope that it makes for them. -/
theorem Node.unprefixed_moved (own : Option Binding) (between : Scope) (inner : List Renaming)
    (hinner : ∀ r ∈ inner, r.KeepsUris) (m : Move) :
    (n : Node) → (n.moved own between inner m).1.unprefixed = n.unprefixed
  | .element tag children => by
    have hinner' : ∀ r ∈ renamingIn (between ++ m.scope own) tag.declarations :: inner,
        r.KeepsUris := by
      intro r hr
      rcases List.mem_cons.mp hr with rfl | hr
      · exact keepsUris_renamingIn _ _
      · exact hinner r hr
    simp only [Node.moved, Node.unprefixed, Tag.unprefixed, Name.unprefixed,
      Move.unprefixed_rebind _ hinner', Move.unprefixed_rebindAttributes _ hinner',
      unprefixedList_movedList _ _ _ hinner' _ children]
  | .comment .. => rfl
  | .instruction .. => rfl
  | .reference _ => rfl
  | .text _ => rfl

/-- The nodes of a list are moved one after the other, each with the prefixes made up for those
before. -/
theorem unprefixedList_movedList (own : Option Binding) (between : Scope)
    (inner : List Renaming) (hinner : ∀ r ∈ inner, r.KeepsUris) (m : Move) :
    (ns : List Node) → unprefixedList (movedList own between inner m ns).1 = unprefixedList ns
  | [] => rfl
  | n :: ns => by
    simp only [movedList, unprefixedList, Node.unprefixed_moved own between inner hinner m n,
      unprefixedList_movedList own between inner hinner _ ns]

end

/-- A move changes nothing but prefixes and declarations. -/
theorem Node.unprefixed_adoptInto (around : Scope) (made : Prefixes) (n : Node) :
    (n.adoptInto around made).1.unprefixed = n.unprefixed := by
  cases n with
  | element tag children =>
    have hinner : ∀ r ∈ [renamingIn around tag.declarations], r.KeepsUris := by
      intro r hr
      rw [List.mem_singleton.mp hr]
      exact keepsUris_renamingIn _ _
    simp only [Node.adoptInto, Node.unprefixed, Tag.unprefixed, Name.unprefixed,
      Move.unprefixed_rebind _ hinner, Move.unprefixed_rebindAttributes _ hinner,
      unprefixedList_movedList _ _ _ hinner _ children]
  | comment => rfl
  | instruction => rfl
  | reference => rfl
  | text => rfl

/-- Taking an element out of its place changes nothing but prefixes and declarations. -/
theorem Element.unprefixed_takenOut (made : Prefixes) (e : Element) :
    (e.takenOut made).1.toNode.unprefixed = e.toNode.unprefixed := by
  have h := e.toNode.unprefixed_adoptInto [] made
  unfold Element.takenOut
  split
  · rename_i tag children made' heq
    rw [heq] at h
    exact h
  · rfl

/-! ### Operations that do not look at prefixes -/

/-- An operation on prefixes leaves text as it is, and makes none. -/
theorem leavesText_unprefixed : LeavesText Node.unprefixed where
  isText n := by cases n <;> rfl
  eq_self := by
    intro n h
    cases n with
    | text => rfl
    | element | comment | instruction | reference => cases h

/-- The text in front of nodes has no prefixes. -/
theorem takeWhile_isText_unprefixedList (ns : List Node) :
    (unprefixedList ns).takeWhile Node.isText = ns.takeWhile Node.isText := by
  rw [unprefixedList_eq_map, leavesText_unprefixed.takeWhile_map]

/-- The same as one string. -/
theorem leadingText_unprefixedList (ns : List Node) :
    leadingText (unprefixedList ns) = leadingText ns := by
  rw [unprefixedList_eq_map, leavesText_unprefixed.leadingText_map]

/-- What is behind that text is found before or after prefixes are left out. -/
theorem withoutLeadingText_unprefixedList (ns : List Node) :
    withoutLeadingText (unprefixedList ns) = unprefixedList (withoutLeadingText ns) := by
  rw [unprefixedList_eq_map, unprefixedList_eq_map, leavesText_unprefixed.withoutLeadingText_map]

/-- Nodes have the same text behind them. -/
theorem withTails_unprefixedList (ns : List Node) :
    withTails (unprefixedList ns)
      = (withTails ns).map fun p => (p.1.unprefixed, unprefixedList p.2) := by
  simp only [unprefixedList_eq_map, leavesText_unprefixed.withTails_map]

/-! ### The attributes of a tag -/

/-- Attributes contribute nothing to the scope of the children. -/
theorem Tag.frame_withAttribute (t : Tag) (name : Name) (value : String) :
    (t.withAttribute name value).frame = t.frame := by
  unfold Tag.withAttribute
  split <;> rfl

/-- Setting an attribute does not change the name of the element. -/
theorem Tag.name_withAttribute (t : Tag) (name : Name) (value : String) :
    (t.withAttribute name value).name = t.name := by
  unfold Tag.withAttribute
  split <;> rfl

/-- Setting an attribute does not change the declarations of the element. -/
theorem Tag.declarations_withAttribute (t : Tag) (name : Name) (value : String) :
    (t.withAttribute name value).declarations = t.declarations := by
  unfold Tag.withAttribute
  split <;> rfl

/-- An attribute is taken off by its key, which does not depend on the prefix. -/
theorem Tag.unprefixed_withoutAttribute (t : Tag) (key : String) :
    (t.withoutAttribute key).unprefixed = t.unprefixed.withoutAttribute key := by
  simp only [Tag.withoutAttribute, Tag.unprefixed, List.filter_map, Tag.mk.injEq, true_and,
    and_true]
  refine congrArg _ (List.filter_congr fun a _ => ?_)
  rw [Function.comp_apply, a.clark_unprefixed]

/-- An attribute is set by its key as well. -/
theorem Tag.unprefixed_withAttribute (t : Tag) (name : Name) (value : String) :
    (t.withAttribute name value).unprefixed
      = t.unprefixed.withAttribute name.unprefixed value := by
  have hany : (t.attributes.map Attribute.unprefixed).any
      (fun a => a.name.clark == name.unprefixed.clark)
        = t.attributes.any fun a => a.name.clark == name.clark := by
    rw [List.any_map]
    refine congrArg t.attributes.any (funext fun a => ?_)
    rw [Function.comp_apply, a.clark_unprefixed, name.clark_unprefixed]
  unfold Tag.withAttribute
  rw [show t.unprefixed.attributes = t.attributes.map Attribute.unprefixed from rfl, hany]
  split
  · simp only [Tag.unprefixed, List.map_map, Tag.mk.injEq, true_and, and_true]
    refine List.map_congr_left fun a _ => ?_
    simp only [Function.comp_apply, a.clark_unprefixed, name.clark_unprefixed]
    split <;> rfl
  · simp only [Tag.unprefixed, List.map_append]
    rfl

end AttrTemplates.Xml
