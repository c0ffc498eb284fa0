import AttrTemplates.Proofs.Template.Guarded
import AttrTemplates.Proofs.Template.Loops
import AttrTemplates.Proofs.Template.Reordered
import AttrTemplates.Proofs.Xml.Needed

/-!
# `AttrTemplates.Proofs.Template.Prefixes`: what prefixes mean where attributes are assigned

An assignment can name an attribute with a prefix, whose namespace is looked up in the declarations
around the element that is processed. For an element that is in no loop these are the declarations
around its place in the source. A copy that `repeat` makes is processed in a document of its own. It
has the declarations that stand in it, and from around it those that a name in it needs. A prefix
that no name is written with stays behind: an assignment in the copy that names it fails, though it
is declared in the source.

* `Place` is a place of the source, with the innermost loop around it, and `Processes` says which
  place an element that is processed comes from, through any number of loops;
* `Place.Stands` is what is left of the place then, and `Processes.stands` that it is;
* `Place.Carries` tells the prefixes that still mean what they mean in the source;
* `prefixes_resolve_iff` is the result for templates, and `prefix_left_behind` a template in which a
  prefix is lost.
-/

set_option autoImplicit false

namespace AttrTemplates

open Xml Run

/-! ### Elements without the directives before a repetition -/

namespace Xml

/-- What a repetition makes copies of. -/
def Element.repeated (e : Element) : Element :=
  ((e.without .define).without .condition).without .repetition

/-- Taking a directive off does not touch the children. -/
theorem Element.children_without (e : Element) (d : Directive) :
    (e.without d).children = e.children := by
  unfold without
  split <;> rfl

/-- Taking a directive off does not touch the declarations. -/
theorem Element.frame_without (e : Element) (d : Directive) :
    (e.without d).tag.frame = e.tag.frame := by
  unfold without
  split <;> rfl

/-- An element without a directive is bound where it was with it. -/
theorem Element.isBound_without {scope : Scope} {e : Element} (d : Directive)
    (h : e.toNode.isBound scope = true) : (e.without d).toNode.isBound scope = true := by
  unfold without
  split
  · obtain ⟨htag, hchildren⟩ := Bool.and_eq_true_iff.mp h
    refine Bool.and_eq_true_iff.mpr ⟨List.all_eq_true.mpr fun n hn => ?_, hchildren⟩
    have hsublist : ((e.tag.withoutAttribute (attributeKey standardUri d.tag)).names).Sublist
        e.tag.names :=
      (List.filter_sublist.map _).cons_cons _
    exact List.all_eq_true.mp htag n (hsublist.subset hn)
  · exact h

/-- A directive waits on a copy if it waits on the original. -/
theorem Tag.lookup_waiting_duplicate (t : Tag) (d : Directive) :
    (t.duplicate.waiting.lookup d.tag).isSome = (t.waiting.lookup d.tag).isSome := by
  have hname := fun a : Attribute => a.isFor_unexpanded d
  rw [Tag.lookup_waiting, Tag.lookup_waiting, Tag.duplicate, filter_map_unexpanded hname]
  simp

/-- Declarations that a copy brings along change nothing about that. -/
theorem Tag.waiting_rooting (t : Tag) (added : List Binding) :
    (t.rooting added).waiting = t.duplicate.waiting := rfl

/-- It is the same to take a directive off and then copy, or the other way around. -/
theorem Element.without_duplicate (e : Element) (d : Directive) :
    e.duplicate.without d = (e.without d).duplicate := by
  have hname : ∀ a : Attribute, (a.unexpanded.name.clark != attributeKey standardUri d.tag)
      = (a.name.clark != attributeKey standardUri d.tag) := by
    intro a
    rw [a.unexpanded_name]
  have hwaits : (e.duplicate.tag.waiting.lookup d.tag).isSome
      = (e.tag.waiting.lookup d.tag).isSome := e.tag.lookup_waiting_duplicate d
  unfold without
  rw [hwaits]
  split
  · unfold duplicate Tag.duplicate Tag.withoutAttribute
    rw [filter_map_unexpanded hname]
  · rfl

/-- A duplicate may be taken before the loop is taken off or afterwards. -/
theorem Element.repeated_duplicate (e : Element) : e.duplicate.repeated = e.repeated.duplicate := by
  simp only [repeated, without_duplicate]

/-- Taking the loop off does not touch the children. -/
theorem Element.children_repeated (e : Element) : e.repeated.children = e.children := by
  simp only [repeated, children_without]

/-- Taking the loop off does not touch the declarations. -/
theorem Element.frame_repeated (e : Element) : e.repeated.tag.frame = e.tag.frame := by
  simp only [repeated, frame_without]

/-- Names that were bound are bound without the loop. -/
theorem Element.isBound_repeated {scope : Scope} {e : Element}
    (h : e.toNode.isBound scope = true) : e.repeated.toNode.isBound scope = true :=
  isBound_without _ (isBound_without _ (isBound_without _ h))

/-- What is repeated is not repeated again. -/
theorem Element.lookup_repeated (e : Element) :
    e.repeated.tag.waiting.lookup Directive.repetition.tag = none := by
  unfold repeated
  rw [Element.lookup_without, if_pos rfl]

end Xml

/-! ### Scopes while directives are handled -/

section

variable {ev : Expr.Evaluator} {walk : Walk} {a here b : Site} {s t : RunState}

/-- Where the scope is coherent, no directive that leaves an element there declares anything on it. -/
theorem Directive.frame_of_handle {d : Directive} {raw : String} {e : Element} {locals : Entries}
    (hcoherent : a.innerScope.Coherent)
    (h : (d.handle ev walk raw a).Gives s (.stays e locals) t) :
    e.tag.frame = a.element.tag.frame := by
  cases Directive.staysAs_of_handle h with
  | define | condition | content | omitTag => rfl
  | attributes hassign => exact frame_of_assignAttributes hcoherent hassign

/-- Directives that keep the element keep the scope inside it. -/
theorem Keeps.innerScope {ds : List Directive} {left : List (String × String)}
    (hcoherent : a.innerScope.Coherent) (h : Keeps ev walk ds a s here left t) :
    here.innerScope = a.innerScope := by
  refine handleTags_keeps (P := fun here _ => here.innerScope = a.innerScope) ?_ rfl h
  intro here left d raw e locals s t hscope _ hhandle
  -- A directive is taken off the element, which changes no frame.
  have hframe : e.tag.frame = here.element.tag.frame :=
    Directive.frame_of_handle (a := here.without d) (by rw [← hscope] at hcoherent; exact hcoherent)
      hhandle
  rw [← hscope]
  exact congrArg (· :: here.scope) hframe

/-- So does a call of one directive. -/
theorem Calls.innerScope {d : Directive} {raw : String} (hcoherent : a.innerScope.Coherent)
    (h : Calls ev walk a s d raw here t) : here.innerScope = a.innerScope := by
  obtain ⟨-, hkept, -⟩ := h
  have hscope := hkept.innerScope hcoherent
  exact hscope

/-- An element that is entered in its place is in the scope of what is around it. -/
theorem Enters.scope (hcoherent : a.innerScope.Coherent) (h : Enters ev walk a s none b t) :
    b.scope = a.innerScope := by
  cases h with
  | child hkept _ _ =>
    have hscope := hkept.innerScope hcoherent
    exact hscope
  | opened hcall _ _ _ =>
    have hscope := hcall.innerScope hcoherent
    exact hscope

/-- When a repetition is handled, the definitions and the condition are gone. -/
theorem Calls.element_of_repetition {raw : String} (h : Calls ev walk a s .repetition raw here t) :
    here.element = a.element.repeated := by
  obtain ⟨hall, hkept, hraw⟩ := h
  rename_i ds ds' here left s₁
  -- The directives before it are these two.
  obtain rfl : ds = [.define, .condition] := by
    rcases ds with _ | ⟨d₁, _ | ⟨d₂, _ | ⟨d₃, rest⟩⟩⟩
    · simp [Directive.all] at hall
    · simp [Directive.all] at hall
    · simp only [Directive.all, List.cons_append, List.cons.injEq] at hall
      rw [hall.1, hall.2.1]
    · simp only [Directive.all, List.cons_append, List.cons.injEq] at hall
      have hlater : Directive.repetition ∈ [Directive.content, .replace, .attributes, .omitTag] := by
        rw [hall.2.2.2]
        simp
      exact absurd hlater (by decide)
  have hbefore : ∀ d ∈ [Directive.define, .condition], d = .define ∨ d = .condition := by simp
  unfold Keeps at hkept
  rw [← permitting_true] at hkept
  rcases handleDirectives_before_repetition hbefore hkept with ⟨gone, hgone⟩ | ⟨locals, hon, hleft⟩
  · cases hgone
  · cases hon
    rw [hleft] at hraw
    exact (Element.without_of_waiting hraw).symm

/-- A copy is one of the element without these directives. -/
theorem Enters.copy {turn : Turn} (h : Enters ev walk a s (some turn) b t) :
    b.element = a.element.repeated.standalone ∧ b.scope = [] ∧
      (a.element.tag.waiting.lookup Directive.repetition.tag).isSome = true := by
  cases h with
  | copied hcall _ _ _ _ _ _ _ =>
    refine ⟨?_, rfl, ?_⟩
    · exact congrArg Element.standalone hcall.element_of_repetition
    · rw [hcall.lookup_waiting]
      rfl


end

/-! ### Places of a source -/

/-- A place of a source, seen from inside the innermost loop around it. -/
structure Place where
  /-- The element at the place. -/
  element : Element
  /-- The frames around it, nearest first, up to the element that is copied. In no loop these are
  all frames around it. -/
  within : Scope
  /-- The innermost element that is copied, at the place or around it, and the frames around that. -/
  copied? : Option (Element × Scope)

namespace Place

/-- The document element of a source. -/
def ofRoot (root : Element) : Place := ⟨root, [], none⟩

/-- The place of an element that is a child of the one at a place. -/
def child (p : Place) (e : Element) : Place := ⟨e, p.element.tag.frame :: p.within, p.copied?⟩

/-- The frames around the place in the source. -/
def scope (p : Place) : Scope := p.within ++ (p.copied?.map (·.2)).getD []

/-- The place, seen from inside a loop of its element. -/
def copied (p : Place) : Place := ⟨p.element, [], some (p.element, p.scope)⟩

/-- The frames that are in force on the element in the source. -/
def inSource (p : Place) : Scope := p.element.tag.frame :: p.scope

/-- The namespace of a prefix that a copy brings along. -/
def brought? (p : Place) (nsPrefix : Option String) : Option String :=
  match p.copied? with
  | none => none
  | some (e, around) => if e.repeated.toNode.needs [] nsPrefix then around.uri? nsPrefix else none

/-- The namespace that declarations give a prefix when the element is processed. -/
def uri? (p : Place) (nsPrefix : Option String) : Option String :=
  (Scope.uri? (p.element.tag.frame :: p.within) nsPrefix).or (p.brought? nsPrefix)

/-- Whether a prefix of the source still has its meaning when the element is processed. The prefix
`xml` always does, and any other if it is declared inside the innermost loop around the place. One
that is declared further out does if a name in the repeated element needs it. -/
def Carries (p : Place) (nsPrefix : String) : Prop :=
  nsPrefix = "xml" ∨ (Scope.uri? (p.element.tag.frame :: p.within) (some nsPrefix)).isSome = true ∨
    ∀ e around, p.copied? = some (e, around) → e.repeated.toNode.needs [] (some nsPrefix) = true

end Place

/-- While the document element of a source is processed from a state with some depth, an element is
processed that comes from a place of the source. -/
inductive Processes (ev : Expr.Evaluator) (depth : Nat) (root : Element) (s₀ : RunState) :
    Place → Nat → Site → RunState → Prop
  | root : Processes ev depth root s₀ (.ofRoot root) depth ⟨root, [], []⟩ s₀
  /-- A child of an element. It is one of the children that this has in the source. -/
  | child {p : Place} {fuel i : Nat} {a b : Site} {e : Element} {s t : RunState} :
    Processes ev depth root s₀ p (fuel + 1) a s →
      Enters ev (standardWalk ev fuel) a s none b t →
      p.element.children[i]? = some e.toNode → a.element.children[i]? = some b.element.toNode →
      Processes ev depth root s₀ (p.child e) fuel b t
  /-- A copy of an element. -/
  | copy {p : Place} {fuel : Nat} {a b : Site} {turn : Turn} {s t : RunState} :
    Processes ev depth root s₀ p (fuel + 1) a s →
      Enters ev (standardWalk ev fuel) a s (some turn) b t →
      Processes ev depth root s₀ p.copied fuel b t

/-! ### What is left of a place -/

/-- What is left of a place when its element is processed: the names in it are bound, its children
are those of the source, and so is its tag, unless it is a copy itself. The declarations around it
say about prefixes what is left of the source. -/
structure Place.Stands (p : Place) (a : Site) : Prop where
  source : p.element.toNode.isBound p.scope = true
  scope : a.scope.Coherent
  bound : a.element.toNode.isBound a.scope = true
  tag : a.element.tag.duplicate = p.element.tag.duplicate ∨
    a.element.tag.waiting.lookup Directive.repetition.tag = none
  children : duplicateList a.element.children = duplicateList p.element.children
  uri? : ∀ q, a.innerScope.uri? q = p.uri? q

/-- In a scope a prefix means what the inner frames declare it to, or else what it means in the
outer. -/
theorem Scope.uri?_append (inner outer : Scope) (q : Option String) :
    Scope.uri? (inner ++ outer) q = (inner.uri? q).or (outer.uri? q) :=
  List.findSome?_append

namespace Place.Stands

variable {ev : Expr.Evaluator} {walk : Walk} {p : Place} {a b : Site} {s t : RunState}

/-- The scope inside an element that stands at a place is coherent. -/
theorem innerScope (h : p.Stands a) : a.innerScope.Coherent :=
  ⟨Tag.isScoped_of_isBound (Bool.and_eq_true_iff.mp h.bound).1, h.scope⟩

/-- The document element stands as it is in the source. -/
theorem root {root : Element} (h : root.toNode.isBound [] = true) (locals : Entries) :
    (Place.ofRoot root).Stands ⟨root, [], locals⟩ where
  source := h
  scope := trivial
  bound := h
  tag := .inl rfl
  children := rfl
  uri? q := by
    show _ = Option.or _ none
    rw [Option.or_none]
    rfl

/-- A child stands where it stands in the source, as far as its parent does. -/
theorem child (h : p.Stands a) (henters : Enters ev walk a s none b t) {i : Nat} {e : Element}
    (hsource : p.element.children[i]? = some e.toNode)
    (hhere : a.element.children[i]? = some b.element.toNode) : (p.child e).Stands b := by
  have hscope : b.scope = a.innerScope := henters.scope h.innerScope
  -- Of the two parents the copies are the same, and a child is copied from the child at its index.
  have hduplicate : b.element.duplicate = e.duplicate := by
    have hsame := congrArg (·[i]?) h.children
    simp only [duplicateList_eq_map, List.getElem?_map, hsource, hhere, Option.map_some] at hsame
    exact Element.toNode_inj.mp (Option.some.inj hsame)
  refine ⟨?source, ?scope, ?bound, ?tag, ?children, fun q => ?uri⟩
  case source =>
    have hchildren := areBound_iff.mp (Bool.and_eq_true_iff.mp h.source).2
    exact hchildren _ (List.mem_of_getElem? hsource)
  case scope => exact hscope ▸ h.innerScope
  case bound =>
    have hchildren := areBound_iff.mp (Bool.and_eq_true_iff.mp h.bound).2
    rw [hscope]
    exact hchildren _ (List.mem_of_getElem? hhere)
  case tag => exact .inl (congrArg Element.tag hduplicate)
  case children => exact congrArg Element.children hduplicate
  case uri =>
    have hframe : b.element.duplicate.tag.frame = e.duplicate.tag.frame := by rw [hduplicate]
    change b.element.tag.frame = e.tag.frame at hframe
    have ha := h.uri? q
    unfold Site.innerScope Place.uri? at ha ⊢
    rw [hscope, Scope.uri?_cons, hframe]
    show Option.or _ (Scope.uri? a.innerScope q) = _
    unfold Site.innerScope
    rw [ha, Scope.uri?_cons _ (p.child e).within, Option.or_assoc]
    rfl

/-- A copy stands where its original stands in the source, with what it brings along. -/
theorem copied (h : p.Stands a) {turn : Turn} (henters : Enters ev walk a s (some turn) b t) :
    p.copied.Stands b := by
  obtain ⟨hcopy, hscope, hwaits⟩ := henters.copy
  obtain ⟨context, rfl⟩ : ∃ locals, b = ⟨a.element.repeated.standalone, [], locals⟩ :=
    ⟨b.locals, by rw [← hcopy, ← hscope]⟩
  -- A copy is not repeated again, so the element is as it is in the source.
  have hduplicate : a.element.duplicate = p.element.duplicate := by
    rcases h.tag with htag | hnone
    · unfold Element.duplicate
      rw [htag, h.children]
    · rw [hnone] at hwaits
      cases hwaits
  have hrepeated : a.element.repeated.toNode.duplicate = p.element.repeated.toNode.duplicate := by
    rw [← Element.toNode_duplicate, ← Element.toNode_duplicate, ← Element.repeated_duplicate,
      ← Element.repeated_duplicate, hduplicate]
  have hbound := Element.isBound_repeated h.bound
  obtain ⟨added, hstandalone, hadded⟩ := Element.standalone_of_isBound hbound
  refine ⟨h.source, trivial, Element.isBound_standalone hbound, .inr ?tag, ?children, fun q => ?uri⟩
  case tag =>
    have hwaiting := a.element.repeated.tag.lookup_waiting_duplicate .repetition
    rw [Element.lookup_repeated, Option.isSome_none, Option.isSome_eq_false_iff,
      Option.isNone_iff_eq_none] at hwaiting
    show a.element.repeated.standalone.tag.waiting.lookup _ = none
    rw [hstandalone, Tag.waiting_rooting]
    exact hwaiting
  case children =>
    show duplicateList a.element.repeated.standalone.children = _
    rw [hstandalone, duplicateList_duplicateList, Element.children_repeated]
    exact h.children
  case uri =>
    have hframe : a.element.repeated.tag.frame = p.element.tag.frame := by
      rw [Element.frame_repeated]
      have hframe : a.element.duplicate.tag.frame = p.element.duplicate.tag.frame := by
        rw [hduplicate]
      exact hframe
    have hneeds : a.element.repeated.toNode.needs [] q = p.element.repeated.toNode.needs [] q := by
      rw [← Node.needs_duplicate, hrepeated, Node.needs_duplicate]
    -- What it needs is declared around the element as it is in the source.
    have hbrought : declared? added q = p.copied.brought? q := by
      rw [hadded, hneeds]
      show _ = if p.element.repeated.toNode.needs [] q then p.scope.uri? q else none
      split
      · rename_i hneeded
        have hinner : ∀ outer, Scope.BoundIn [] outer := fun _ => trivial
        have hhere := Node.isBound_duplicate_here hbound
        have hthere := Node.isBound_duplicate_here (Element.isBound_repeated h.source)
        rw [hrepeated] at hhere
        exact Node.uri?_of_needs (hinner _) (hinner _) _ hhere hthere
          ((Node.needs_duplicate _ _ _).trans hneeded)
      · rfl
    show Scope.uri? [a.element.repeated.standalone.tag.frame] q = _
    rw [hstandalone, Scope.uri?_cons]
    show (declared? (a.element.repeated.tag.frame.declarations ++ added) q).or none = _
    rw [declared?_append, Option.or_none, hframe, hbrought]
    unfold Place.uri?
    rw [Scope.uri?_cons]
    show _ = ((declared? p.element.tag.frame.declarations q).or none).or _
    rw [Option.or_none]

end Place.Stands

/-- Whatever loops an element is in, its place in the source stands. -/
theorem Processes.stands {ev : Expr.Evaluator} {depth fuel : Nat} {root : Element} {s₀ s : RunState}
    {p : Place} {a : Site} (hroot : root.toNode.isBound [] = true)
    (h : Processes ev depth root s₀ p fuel a s) : p.Stands a := by
  induction h with
  | root => exact .root hroot []
  | child h henters hsource hhere ih => exact ih.child henters hsource hhere
  | copy h henters ih => exact ih.copied henters

/-- If the element cannot be processed, the document element cannot be either. -/
theorem Processes.fails {ev : Expr.Evaluator} {depth fuel : Nat} {root : Element} {s₀ s : RunState}
    {p : Place} {a : Site} {f : Failure} (h : Processes ev depth root s₀ p fuel a s)
    (hfails : (standardWalk ev fuel a).Fails s f) :
    (standardWalk ev depth ⟨root, [], []⟩).Fails s₀ f := by
  induction h with
  | root => exact hfails
  | child h henters _ _ ih => exact ih (henters.fails hfails)
  | copy h henters ih => exact ih (henters.fails hfails)

/-- A template fails where its document element cannot be processed. -/
theorem Template.process_fails {source : Option Source} {data : Value} {globals : Entries}
    {d : Document} {root : Element} {f : Failure} (hparse : (Template.ofSource source).parse = .ok d)
    (hdata : data.entriesIfAny = .ok globals) (hroot : d.root = root.toNode)
    (hfails : (standardWalk .standard maxNesting ⟨root, [], []⟩).Fails ⟨globals, [], 0, false⟩ f) :
    ((Template.ofSource source).process data).1 = .error f := by
  have helement : d.root.element? = some root := by rw [hroot]; rfl
  have hdocument : ((Template.ofSource source).processDocument d).Fails ⟨globals, [], 0, false⟩ f := by
    unfold Template.processDocument
    rw [helement]
    exact hfails.bind _
  unfold Template.process
  simp only [hparse, hdata, bind, Except.bind, pure, Except.pure]
  exact hdocument

/-! ### Prefixes in assignments -/

section

variable {p : Place} {a : Site} {q uri : String}

/-- What is left of the meaning that a prefix has in the source. -/
theorem Place.Stands.meaning?_of_carries (h : p.Stands a) (hdeclared : p.inSource.meaning? q = some uri)
    (hcarries : p.Carries q) : a.innerScope.meaning? q = some uri := by
  unfold Scope.meaning? at hdeclared ⊢
  by_cases hxml : q = "xml"
  · rwa [if_pos (beq_iff_eq.mpr hxml)] at hdeclared ⊢
  rw [if_neg (mt beq_iff_eq.mp hxml)] at hdeclared ⊢
  rw [h.uri?, Place.uri?, Place.brought?]
  unfold Place.inSource Place.scope at hdeclared
  rw [← List.cons_append, Scope.uri?_append] at hdeclared
  cases hinside : Scope.uri? (p.element.tag.frame :: p.within) (some q) with
  | some uri' =>
    rw [hinside] at hdeclared
    exact hdeclared
  | none =>
    rw [hinside, Option.none_or] at hdeclared
    rw [Option.none_or]
    cases hcopied : p.copied? with
    | none =>
      rw [hcopied] at hdeclared
      cases hdeclared
    | some loop =>
      obtain ⟨e, around⟩ := loop
      rw [hcopied] at hdeclared
      -- The declaration is outside the loop, so the copy has to need it.
      have hneeds : e.repeated.toNode.needs [] (some q) = true := by
        rcases hcarries with hq | hsome | hneeds
        · exact absurd hq hxml
        · rw [hinside] at hsome
          cases hsome
        · exact hneeds e around hcopied
      dsimp only
      rw [if_pos hneeds]
      exact hdeclared

/-- A prefix that is not carried means nothing. -/
theorem Place.Stands.meaning?_of_not_carries (h : p.Stands a) (hcarries : ¬ p.Carries q) :
    a.innerScope.meaning? q = none := by
  obtain ⟨hxml, hcarries⟩ := not_or.mp hcarries
  obtain ⟨hinside, hneeds⟩ := not_or.mp hcarries
  rw [Bool.not_eq_true, Option.isSome_eq_false_iff, Option.isNone_iff_eq_none] at hinside
  push Not at hneeds
  obtain ⟨e, around, hcopied, hneeds⟩ := hneeds
  unfold Scope.meaning?
  rw [if_neg (mt beq_iff_eq.mp hxml), h.uri?, Place.uri?, hinside, Option.none_or, Place.brought?,
    hcopied]
  exact if_neg hneeds

/-- What the name of an attribute with such a prefix stands for. -/
theorem Place.Stands.attributeTarget (h : p.Stands a) {name localName : String}
    (hprefixed : prefixed? name = some (q, localName))
    (hdeclared : p.inSource.meaning? q = some uri) :
    (p.Carries q → AttrTemplates.attributeTarget a.innerScope name = .ok (some uri, localName)) ∧
      (¬ p.Carries q →
        AttrTemplates.attributeTarget a.innerScope name = .error (.unknownPrefix q)) := by
  rw [attributeTarget_eq, hprefixed]
  refine ⟨fun hcarries => ?_, fun hnot => ?_⟩
  · dsimp only
    rw [h.meaning?_of_carries hdeclared hcarries]
  · dsimp only
    rw [h.meaning?_of_not_carries hnot]

end

namespace Xml

/-- The value that an attribute has been set to. -/
theorem Tag.attribute?_withAttribute (t : Tag) (name : Name) (value : String) :
    (t.withAttribute name value).attribute? name.clark = some value := by
  unfold withAttribute attribute?
  -- Either an attribute of that name has its value replaced in its place, or there was none.
  split
  · rename_i hany
    have hkey : ∀ a : Attribute, ((fun a : Attribute => a.name.clark == name.clark) ∘ fun a =>
        if a.name.clark == name.clark then { name, value } else a) a
          = (a.name.clark == name.clark) := by
      intro a
      rw [Function.comp_apply]
      split
      · rename_i h
        rw [h]
        exact beq_self_eq_true _
      · rfl
    rw [List.find?_map, funext hkey]
    cases hfound : t.attributes.find? fun a => a.name.clark == name.clark with
    | none =>
      obtain ⟨a, ha, hclark⟩ := List.any_eq_true.mp hany
      exact absurd hclark (List.find?_eq_none.mp hfound a ha)
    | some a =>
      have hclark := List.find?_some hfound
      simp only [Option.map_some, if_pos hclark]
  · rename_i hnone
    have hfound : (t.attributes.find? fun a => a.name.clark == name.clark) = none := by
      simpa using hnone
    rw [List.find?_append, hfound]
    simp

/-- An attribute that has been removed is gone. -/
theorem Tag.attribute?_withoutAttribute (t : Tag) (key : String) :
    (t.withoutAttribute key).attribute? key = none := by
  unfold withoutAttribute attribute?
  simp

end Xml

section

variable {ev : Expr.Evaluator} {site : Site} {s t : RunState}

/-- Assignments that are made one after the other. -/
theorem assignAttributes_append_fails {front behind : List String} {e : Element} {f : Failure}
    (hfront : (assignAttributes ev site front).Gives s e t)
    (hfails : (assignAttributes ev { site with element := e } behind).Fails t f) :
    (assignAttributes ev site (front ++ behind)).Fails s f := by
  induction front generalizing site s with
  | nil =>
    obtain ⟨rfl, rfl⟩ := assignAttributes_nil_gives_iff.mp hfront
    exact hfails
  | cons argument front ih =>
    obtain ⟨a, target, v, s₁, here, s₂, hparse, htarget, hv, hassign, hrest⟩ :=
      assignAttributes_cons_gives_iff.mp hfront
    refine (gives_lift_iff.mpr ⟨wellFormed_eq_ok_iff.mpr hparse, rfl⟩).bind_fails
      ((gives_lift_iff.mpr ⟨htarget, rfl⟩).bind_fails (hv.bind_fails ?_))
    have hlater := ih hrest hfails
    -- The first assignment removes an attribute or sets one, and then comes to the rest.
    cases hundefined : v.isUndefined with
    | true =>
      rw [hundefined] at hassign
      obtain ⟨hremove, rfl⟩ := hassign
      exact (gives_lift_iff.mpr ⟨hremove, rfl⟩).bind_fails hlater
    | false =>
      rw [hundefined] at hassign
      obtain ⟨text, htext, hset⟩ := hassign
      exact (gives_lift_iff.mpr ⟨htext, rfl⟩).bind_fails (hset.bind_fails hlater)

/-- Assignments fail where the prefix of the first is unknown. -/
theorem assignAttributes_cons_fails {argument : String} {arguments : List String}
    {a : NamedExpression} {f : Failure}
    (hparse : NamedExpression.parse? isAttributeChar argument = some a)
    (htarget : attributeTarget site.innerScope a.name = .error f) :
    (assignAttributes ev site (argument :: arguments)).Fails s f := by
  refine (gives_lift_iff.mpr ⟨wellFormed_eq_ok_iff.mpr hparse, rfl⟩).bind_fails ?_
  rw [htarget]
  rfl

/-- An attribute is set in its namespace, under whatever prefix. -/
theorem attribute?_taggedWith (uri localName value : String) (made : Prefixes) :
    (taggedWith site (some uri, localName) value made).1.attribute? (attributeKey uri localName)
      = some value := by
  have hkey : ∀ b : Binding, b.uri = uri →
      attributeKey uri localName = Name.clark ⟨some b, localName⟩ := by
    rintro b rfl
    rfl
  unfold taggedWith
  dsimp only
  cases hb : site.innerScope.bindingFor? uri true with
  | some b =>
    rw [hkey b (Scope.bindingFor?_uri hb)]
    exact Tag.attribute?_withAttribute _ _ _
  | none =>
    rw [hkey _ (newBinding_uri site.innerScope none uri made)]
    exact Tag.attribute?_withAttribute _ _ _

/-- An assignment to an attribute in a namespace sets it there, or removes it. -/
theorem attribute?_of_assignAttributes {argument localName uri : String} {a : NamedExpression}
    {e : Element} (hparse : NamedExpression.parse? isAttributeChar argument = some a)
    (htarget : attributeTarget site.innerScope a.name = .ok (some uri, localName))
    (h : (assignAttributes ev site [argument]).Gives s e t) :
    ∃ v s₁, (evaluateIn ev site.locals a.expression).Gives s v s₁ ∧
      if v.isUndefined then e.tag.attribute? (attributeKey uri localName) = none
      else ∃ text, v.written = .ok text ∧
        e.tag.attribute? (attributeKey uri localName) = some text := by
  obtain ⟨a', target, v, s₁, here, s₂, hparse', htarget', hv, hassign, hrest⟩ :=
    assignAttributes_cons_gives_iff.mp h
  -- The argument has one reading, so what was evaluated and assigned to is what the hypotheses
  -- name.
  obtain rfl := Option.some.inj (hparse.symm.trans hparse')
  obtain rfl := Except.ok.inj (htarget.symm.trans htarget')
  obtain ⟨rfl, rfl⟩ := assignAttributes_nil_gives_iff.mp hrest
  refine ⟨v, s₁, hv, ?_⟩
  split
  · rename_i hundefined
    rw [if_pos hundefined] at hassign
    obtain ⟨-, rfl⟩ := removeAttribute_eq_ok_iff.mp hassign.1
    exact Tag.attribute?_withoutAttribute _ _
  · rename_i hdefined
    rw [if_neg hdefined] at hassign
    obtain ⟨text, htext, hset⟩ := hassign
    refine ⟨text, htext, ?_⟩
    obtain ⟨-, -, rfl, -⟩ := setAttribute_gives_iff.mp hset
    exact attribute?_taggedWith uri localName text s₁.made

end

/-! ### Templates -/

/-- What becomes of a prefix that is declared in a template around an element, or on it, when the
element assigns to an attribute with it. In every copy of the element, in whatever loops, once the
assignments before that one have been made:

* the prefix has the namespace that it has in the source just if its place carries it, and then the
  attribute is set or removed in that namespace;
* if its place does not carry it, the assignment fails since the prefix is unknown, and with it the
  template. -/
theorem prefixes_resolve_iff {source : Option Source} {data : Value} {globals : Entries}
    {d : Document} {root : Element} {p : Place} {fuel : Nat} {a here : Site} {s t u : RunState}
    {raw argument q localName uri : String} {front behind : List String} {assigned : NamedExpression}
    {e : Element} (hparse : (Template.ofSource source).parse = .ok d) (hroot : d.root = root.toNode)
    (hdata : data.entriesIfAny = .ok globals)
    (hplace : Processes .standard maxNesting root ⟨globals, [], 0, false⟩ p (fuel + 1) a s)
    (hcall : Calls .standard (standardWalk .standard fuel) a s .attributes raw here t)
    (harguments : Expr.arguments raw = front ++ argument :: behind)
    (hfront : (assignAttributes .standard here front).Gives t e u)
    (hargument : NamedExpression.parse? isAttributeChar argument = some assigned)
    (hprefixed : prefixed? assigned.name = some (q, localName))
    (hdeclared : p.inSource.meaning? q = some uri) :
    (attributeTarget (Site.innerScope ⟨e, here.scope, here.locals⟩) assigned.name
        = .ok (some uri, localName) ↔ p.Carries q) ∧
    (∀ e' u', (assignAttributes .standard ⟨e, here.scope, here.locals⟩ [argument]).Gives u e' u' →
      ∃ v u₁, (evaluateIn .standard here.locals assigned.expression).Gives u v u₁ ∧
        if v.isUndefined then e'.tag.attribute? (attributeKey uri localName) = none
        else ∃ text, v.written = .ok text ∧
          e'.tag.attribute? (attributeKey uri localName) = some text) ∧
    (¬ p.Carries q → ((Template.ofSource source).process data).1 = .error (.unknownPrefix q)) := by
  obtain ⟨declared, hread⟩ := Template.read_of_parse hparse
  have hbound := Source.isBound_root hread
  rw [hroot] at hbound
  have hstands := hplace.stands hbound
  -- Neither the directives before nor the assignments before declare anything.
  have hhere : here.innerScope = a.innerScope := hcall.innerScope hstands.innerScope
  have hframe : e.tag.frame = here.element.tag.frame :=
    frame_of_assignAttributes (hhere ▸ hstands.innerScope) hfront
  have hscope : Site.innerScope ⟨e, here.scope, here.locals⟩ = a.innerScope :=
    (congrArg (· :: here.scope) hframe).trans hhere
  obtain ⟨hresolves, hfails⟩ := hstands.attributeTarget hprefixed hdeclared
  rw [← hscope] at hresolves hfails
  refine ⟨⟨fun hok => ?_, hresolves⟩, fun e' u' hassign => ?_, fun hnot => ?_⟩
  · by_contra hnot
    rw [hfails hnot] at hok
    cases hok
  · by_cases hcarries : p.Carries q
    · have hset := attribute?_of_assignAttributes hargument (hresolves hcarries) hassign
      exact hset
    · obtain ⟨_, _, _, _, _, _, hparse', htarget, -⟩ := assignAttributes_cons_gives_iff.mp hassign
      obtain rfl := Option.some.inj (hargument.symm.trans hparse')
      rw [hfails hcarries] at htarget
      cases htarget
  · -- The failure comes through to the template.
    have hbehind : (assignAttributes .standard ⟨e, here.scope, here.locals⟩
        (argument :: behind)).Fails u (.unknownPrefix q) :=
      assignAttributes_cons_fails hargument (hfails hnot)
    have hassign := assignAttributes_append_fails hfront hbehind
    rw [← harguments] at hassign
    have hdirective : (Directive.attributes.handle .standard (standardWalk .standard fuel) raw
        here).Fails t (.unknownPrefix q) := hassign.bind _
    exact Template.process_fails hparse hdata hroot (hplace.fails (hcall.fails hdirective))

/-- The namespace of links. -/
def linkUri : String := "urn:link"

/-- A link that is repeated, and in which the prefix of links is used. -/
def link : Element where
  tag := ⟨.plain "a", [⟨⟨some ⟨some "l", linkUri⟩, "is"⟩, "new", []⟩,
    standardAttribute "repeat" "i xs", standardAttribute "attributes" "l:to i"], [], some 1⟩
  children := []

/-- A document with such a link in it. -/
def linkRoot : Element where
  tag := ⟨.plain "r", [], [⟨some "tal", standardUri⟩, ⟨some "l", linkUri⟩], some 1⟩
  children := [link.toNode]

/-- The source of that document. -/
def linkSource : Option Source := some (.text
  "<r xmlns:tal=\"http://xml.zope.org/namespaces/tal\" xmlns:l=\"urn:link\"><a l:is=\"new\" tal:repeat=\"i xs\" tal:attributes=\"l:to i\"/></r>")

/-- Data with one address in them. -/
def oneAddress : Entries := [(.str "xs", .list [.str "u"])]

/-- The source with the link in it can be parsed. -/
theorem linkSource_parse :
    ∃ d, (Template.ofSource linkSource).parse = .ok d ∧ d.root = linkRoot.toNode := by
  -- Documents cannot be compared by evaluation as a whole, so their parts are, and put together.
  have hread : (Template.ofSource linkSource).parse.toOption.any (fun d => d.root.element?.any fun r =>
      decide (r.tag = linkRoot.tag) && decide (r.children.length = 1) &&
        (r.children.head?.bind Node.element?).any fun c =>
          decide (c.tag = link.tag) && c.children.isEmpty) = true := by decide +kernel
  cases hparse : (Template.ofSource linkSource).parse with
  | error f =>
    rw [hparse] at hread
    cases hread
  | ok d =>
    rw [hparse] at hread
    refine ⟨d, rfl, ?_⟩
    simp only [Except.toOption, Option.any_some, Option.any_eq_true, Bool.and_eq_true,
      decide_eq_true_eq, List.isEmpty_iff] at hread
    obtain ⟨r, hr, ⟨htag, hlength⟩, c, hc, hctag, hcchildren⟩ := hread
    obtain ⟨n, hn⟩ := List.length_eq_one_iff.mp hlength
    rw [hn] at hc
    have hlink : c = link := by
      obtain ⟨tag, children⟩ := c
      cases hctag
      cases hcchildren
      rfl
    have hchild : n = link.toNode := by
      rw [Node.eq_toNode hc, hlink]
    rw [Node.eq_toNode hr]
    obtain ⟨tag, children⟩ := r
    cases htag
    cases hn
    rw [hchild]
    rfl

/-- The copy of the link for its item. -/
def copiedLink : Site where
  element := ((⟨link, [linkRoot.tag.frame], []⟩ : Site).without .repetition).element.standalone
  scope := []
  locals := loopContext [] [] "i" (.str "u") ⟨0, 1⟩

/-- The prefix of links has its meaning in the copy of an element in which it is used. -/
theorem prefixes_resolve_iff_copiedLink : ∃ s here t,
    Processes .standard maxNesting linkRoot ⟨oneAddress, [], 0, false⟩
      ((Place.ofRoot linkRoot).child link).copied 998 copiedLink s ∧
    Calls .standard (standardWalk .standard 997) copiedLink s .attributes "l:to i" here t ∧
    attributeTarget here.innerScope "l:to" = .ok (some linkUri, "to") := by
  obtain ⟨d, hparse, hroot⟩ := linkSource_parse
  have hloop : NamedExpression.parse? isVariableChar "i xs" = some ⟨"i", "xs"⟩ := by decide +kernel
  have hassigned : NamedExpression.parse? isAttributeChar "l:to i"
      = some ⟨"l:to", "i"⟩ := by decide +kernel
  have hprefixed : prefixed? "l:to" = some ("l", "to") := by decide +kernel
  have hsplit : Expr.arguments "l:to i" = [] ++ "l:to i" :: [] := by decide +kernel
  have hkept : Keeps .standard (standardWalk .standard 999) Directive.all ⟨linkRoot, [], []⟩
      ⟨oneAddress, [], 0, false⟩ ⟨linkRoot, [], []⟩ linkRoot.tag.waiting ⟨oneAddress, [], 0, false⟩ :=
    .of_nothing (fun d => by cases d <;> rfl) Directive.all
  have hchild : Enters .standard (standardWalk .standard 999) ⟨linkRoot, [], []⟩
      ⟨oneAddress, [], 0, false⟩ none ⟨link, [linkRoot.tag.frame], []⟩ _ :=
    .child hkept (List.nil_append _).symm (walkNodes_nil_gives_iff.mpr ⟨rfl, rfl⟩)
  -- From the root to its child, from there into the copy, and past six directives to `attributes`.
  have hcopy := @Enters.of_list (standardWalk .standard 998) ⟨link, [linkRoot.tag.frame], []⟩
    ⟨oneAddress, [], 0, false⟩ _ _ _ _ _ 0 _ _ rfl rfl rfl hloop (by decide) (.inr ⟨rfl, rfl⟩) rfl
    rfl (repeatFrom_nil_gives_iff.mpr ⟨rfl, rfl⟩)
  obtain ⟨s, hplace⟩ : ∃ s, Processes .standard maxNesting linkRoot ⟨oneAddress, [], 0, false⟩
      ((Place.ofRoot linkRoot).child link).copied 998 copiedLink s :=
    ⟨_, (Processes.root.child (i := 0) hchild rfl rfl).copy hcopy⟩
  have hcall : Calls .standard (standardWalk .standard 997) copiedLink s .attributes "l:to i"
      (copiedLink.without .attributes)
      (s.noting [copiedLink.announcement .attributes "l:to i"]) :=
    .next rfl (((((keeps_nil.skip rfl).skip rfl).skip rfl).skip rfl).skip rfl) rfl
  have hcarries : (((Place.ofRoot linkRoot).child link).copied).Carries "l" := by
    refine .inr (.inr fun e around hcopied => ?_)
    cases hcopied
    decide +kernel
  have hdata : (Value.map oneAddress).entriesIfAny = .ok oneAddress := rfl
  have hresolves := prefixes_resolve_iff hparse hroot hdata hplace hcall hsplit
    (assignAttributes_nil_gives_iff.mpr ⟨rfl, rfl⟩) hassigned hprefixed
    (show _ = some linkUri by decide +kernel)
  have htarget := hresolves.1.mpr hcarries
  refine ⟨s, _, _, hplace, hcall, ?_⟩
  exact htarget

/-- A document with a link in which the prefix of links is declared, but not used. -/
def unusedSource : Option Source := some (.text
  "<r xmlns:tal=\"http://xml.zope.org/namespaces/tal\" xmlns:l=\"urn:link\"><a tal:repeat=\"i xs\" tal:attributes=\"l:to i\"/></r>")

/-- A prefix that is declared around a repeated element is not found in its copies, if nothing in it
uses the prefix. -/
theorem prefix_left_behind :
    (Template.ofSource unusedSource).parse.toOption.map
        (fun d => d.root.element?.map fun r => r.tag.declarations)
      = some (some [⟨some "tal", standardUri⟩, ⟨some "l", linkUri⟩]) ∧
    ((Template.ofSource unusedSource).process (.map oneAddress)).1
      = .error (.unknownPrefix "l") := by
  refine ⟨by decide +kernel, ?_⟩
  have hfailure : (match ((Template.ofSource unusedSource).process (.map oneAddress)).1 with
      | .error (.unknownPrefix q) => q == "l"
      | _ => false) = true := by decide +kernel
  split at hfailure
  · rename_i q hprocess
    rw [hprocess, beq_iff_eq.mp hfailure]
  · cases hfailure

end AttrTemplates
