import AttrTemplates.Proofs.Template.Undirected
import AttrTemplates.Proofs.Template.Within
import Mathlib.Data.List.Forall2

/-!
# `AttrTemplates.Proofs.Template.Consumed`: directives are consumed

Processing leaves no directive behind. Whatever stands for a processed element, no element in it
carries an attribute that is a directive. Attributes in the namespace of the standard language
that are no directives stay, and each element that carries some has been noted with all of them.

`directives_consumed` says so for runs that bring in no such attributes from elsewhere: what is
inserted has no marks (`Call.insertsUnmarked`), and no assignment sets or removes attributes in
the namespace (`Call.assignsElsewhere`).

The invariant on one element is that the directives still waiting are those it still carries.
`handleDirectives_accounted` carries it through the seven directives. The marks of what is
finished are `Accounted` for, and `permittedWalk_accounted` carries that through the tree.
-/

set_option autoImplicit false

namespace AttrTemplates

open Xml Run

/-! ### Attributes in other namespaces -/

/-- Whether a namespace is another than that of the standard language, and written without a
closing brace, so that its attribute keys are not mistaken either. -/
def isElsewhere (uri : String) : Bool := uri != standardUri && !uri.toList.contains '}'

/-- A name whose key is not that of an attribute of the standard language. -/
def Xml.Name.Foreign (n : Name) : Prop := ∀ localName, n.clark ≠ attributeKey standardUri localName

/-- A key in characters: the namespace in braces, then the local name. -/
theorem attributeKey_toList (uri localName : String) :
    (attributeKey uri localName).toList = '{' :: (uri.toList ++ '}' :: localName.toList) := by
  show ("\x7b" ++ uri ++ "\x7d" ++ localName).toList = _
  simp only [String.toList_append, List.append_assoc]
  rfl

/-- With one namespace different names have different keys. -/
theorem attributeKey_inj {uri l k : String} (h : attributeKey uri l = attributeKey uri k) :
    l = k := by
  have hlist := congrArg String.toList h
  rw [attributeKey_toList, attributeKey_toList] at hlist
  have htail := List.append_cancel_left (List.cons.inj hlist).2
  exact String.toList_inj.mp (List.cons.inj htail).2

/-- A namespace without a closing brace is read off the key. -/
theorem uri_eq_of_attributeKey_eq {uri uri' l k : String} (huri : '}' ∉ uri.toList)
    (huri' : '}' ∉ uri'.toList) (h : attributeKey uri l = attributeKey uri' k) : uri = uri' := by
  -- A namespace ends at the first closing brace, since it has none itself.
  have hspan : ∀ {u : String} {rest : List Char}, '}' ∉ u.toList →
      (u.toList ++ '}' :: rest).takeWhile (· != '}') = u.toList := by
    intro u rest hu
    rw [List.takeWhile_append_of_pos]
    · simp
    · intro c hc
      rw [bne_iff_ne]
      rintro rfl
      exact hu hc
  have hlist := congrArg String.toList h
  rw [attributeKey_toList, attributeKey_toList] at hlist
  have hfront := congrArg (List.takeWhile (· != '}')) (List.cons.inj hlist).2
  rw [hspan huri, hspan huri'] at hfront
  exact String.toList_inj.mp hfront

/-- A name in a namespace elsewhere is foreign. -/
theorem foreign_of_isElsewhere {b : Binding} (h : isElsewhere b.uri = true)
    (localName : String) : (⟨some b, localName⟩ : Name).Foreign := by
  obtain ⟨huri, hbrace⟩ := Bool.and_eq_true_iff.mp h
  intro l heq
  refine bne_iff_ne.mp huri (uri_eq_of_attributeKey_eq ?_ (by decide) heq)
  simpa using hbrace

namespace Xml

/-- The key of a name in the standard namespace is that of its local name. -/
theorem Name.clark_of_standard {n : Name} (h : n.uri? = some standardUri) :
    n.clark = attributeKey standardUri n.localName := by
  unfold Name.clark
  rw [h]
  rfl

/-- A foreign name is not in the standard namespace. -/
theorem Name.Foreign.uri?_ne {n : Name} (h : n.Foreign) : n.uri? ≠ some standardUri :=
  fun huri => h n.localName (n.clark_of_standard huri)

/-- Taking a directive off a tag takes it off what waits, and nothing else. -/
theorem Tag.waiting_without (t : Tag) (name : String) :
    (t.withoutAttribute (attributeKey standardUri name)).waiting
      = t.waiting.filter fun w => w.1 != name := by
  unfold Tag.waiting Tag.withoutAttribute
  rw [List.filter_map, List.filter_filter, List.filter_filter]
  refine congrArg _ (List.filter_congr fun a _ => ?_)
  -- Among attributes of the standard language the key is as good as the name. Others do not wait.
  by_cases ha : a.name.uri? = some standardUri
  · rw [Name.clark_of_standard ha, ha]
    show (_ && (attributeKey standardUri a.name.localName != _)) = ((a.name.localName != name) && _)
    by_cases hname : a.name.localName = name
    · subst hname
      simp
    · have hkey : attributeKey standardUri a.name.localName ≠ attributeKey standardUri name :=
        fun h => hname (attributeKey_inj h)
      rw [bne_iff_ne.mpr hname, bne_iff_ne.mpr hkey]
      rfl
  · have hfalse : (a.name.uri? == some standardUri) = false := beq_eq_false_iff_ne.mpr ha
    rw [hfalse, Bool.false_and, Bool.and_false]

/-- Removing a foreign attribute leaves what waits. -/
theorem Tag.waiting_withoutAttribute (t : Tag) {key : String}
    (h : ∀ localName, key ≠ attributeKey standardUri localName) :
    (t.withoutAttribute key).waiting = t.waiting := by
  unfold Tag.waiting Tag.withoutAttribute
  rw [List.filter_filter]
  refine congrArg _ (List.filter_congr fun a _ => ?_)
  by_cases ha : a.name.uri? = some standardUri
  · have hne : (a.name.clark != key) = true := by
      rw [Name.clark_of_standard ha, bne_iff_ne]
      exact (h _).symm
    rw [hne, Bool.and_true]
  · have hfalse : (a.name.uri? == some standardUri) = false := beq_eq_false_iff_ne.mpr ha
    rw [hfalse, Bool.false_and]

/-- Setting a foreign attribute leaves what waits. -/
theorem Tag.waiting_withAttribute (t : Tag) {name : Name} (h : name.Foreign) (value : String) :
    (t.withAttribute name value).waiting = t.waiting := by
  have hname : (name.uri? == some standardUri) = false := beq_eq_false_iff_ne.mpr h.uri?_ne
  unfold Tag.withAttribute
  split
  · unfold Tag.waiting
    rw [List.filter_map, List.map_map]
    -- No attribute of the standard language has the key of the one that is set.
    have hsame : ∀ a : Attribute, (a.name.uri? == some standardUri) = true →
        (a.name.clark == name.clark) = false := by
      intro a ha
      rw [Name.clark_of_standard (beq_iff_eq.mp ha), beq_eq_false_iff_ne]
      exact (h _).symm
    have hfilter : t.attributes.filter ((fun a => a.name.uri? == some standardUri) ∘ fun a =>
        if a.name.clark == name.clark then { name, value } else a)
          = t.attributes.filter fun a => a.name.uri? == some standardUri := by
      refine List.filter_congr fun a _ => ?_
      rw [Function.comp_apply]
      split
      · rename_i hclark
        rw [hname]
        cases ha : a.name.uri? == some standardUri with
        | false => rfl
        | true =>
          rw [hsame a ha] at hclark
          cases hclark
      · rfl
    rw [hfilter]
    refine List.map_congr_left fun a ha => ?_
    have hclark := hsame a (List.mem_filter.mp ha).2
    rw [Function.comp_apply, hclark]
    rfl
  · unfold Tag.waiting
    rw [List.filter_append, List.filter_singleton, hname]
    simp

end Xml

/-! ### Assignments -/

/-- A call that assigns nothing in the namespace of the standard language. -/
def Call.assignsElsewhere (c : Call) : Bool :=
  match c.directive with
  | .attributes => (Expr.arguments c.raw).all fun argument =>
    match NamedExpression.parse? isAttributeChar argument with
    | some a =>
      match attributeTarget c.site.innerScope a.name with
      | .ok (some uri, _) => isElsewhere uri
      | _ => true
    | none => true
  | _ => true

/-- Arguments that assign nothing in the namespace of the standard language in a scope. -/
def AssignElsewhere (scope : Scope) (arguments : List String) : Prop :=
  ∀ argument ∈ arguments, ∀ a, NamedExpression.parse? isAttributeChar argument = some a →
    ∀ uri localName, attributeTarget scope a.name = .ok (some uri, localName) →
      isElsewhere uri = true

/-- A call that assigns elsewhere sets no attribute in the standard namespace. -/
theorem assignElsewhere_of_call {ev : Expr.Evaluator} {raw : String} {site : Site}
    {globals : Entries} (h : Call.assignsElsewhere ⟨ev, .attributes, raw, site, globals⟩ = true) :
    AssignElsewhere site.innerScope (Expr.arguments raw) := by
  intro argument hargument a hparse uri localName htarget
  have hall := List.all_eq_true.mp h argument hargument
  simp only [hparse, htarget] at hall
  exact hall

/-- A scope in which prefixes stand for nothing else than before, unless for another namespace
than that of the standard language. -/
def NewElsewhere (before after : Scope) : Prop :=
  ∀ p uri, after.uri? p = some uri → before.uri? p = some uri ∨ isElsewhere uri = true

/-- A name that has come to mean something since then means something elsewhere. -/
theorem attributeTarget_of_newElsewhere {before after : Scope} (h : NewElsewhere before after)
    {name uri localName : String}
    (htarget : attributeTarget after name = .ok (some uri, localName)) :
    attributeTarget before name = .ok (some uri, localName) ∨ isElsewhere uri = true := by
  obtain ⟨-, hnone⟩ | ⟨p, u, hprefix, hmeaning, hu⟩ := attributeTarget_eq_ok_iff.mp htarget
  · cases hnone
  · cases hu
    unfold Scope.meaning? at hmeaning
    -- The prefix `xml` means the same in every scope.
    split at hmeaning
    · rename_i hxml
      refine .inl (attributeTarget_eq_ok_iff.mpr (.inr ⟨p, uri, hprefix, ?_, rfl⟩))
      unfold Scope.meaning?
      rw [if_pos hxml]
      exact hmeaning
    · rename_i hxml
      rcases h _ _ hmeaning with hbefore | helsewhere
      · refine .inl (attributeTarget_eq_ok_iff.mpr (.inr ⟨p, uri, hprefix, ?_, rfl⟩))
        unfold Scope.meaning?
        rw [if_neg hxml]
        exact hbefore
      · exact .inr helsewhere

/-- The key of an attribute without a prefix is that of no attribute of the standard language,
since names in assignments have no braces. -/
theorem plain_of_attributeTarget {argument : String} {a : NamedExpression}
    (hparse : NamedExpression.parse? isAttributeChar argument = some a) {scope : Scope}
    {localName : String} (htarget : attributeTarget scope a.name = .ok (none, localName)) :
    ∀ l, localName ≠ attributeKey standardUri l := by
  have hname : localName = a.name := by
    obtain ⟨-, h⟩ | ⟨p, u, -, -, h⟩ := attributeTarget_eq_ok_iff.mp htarget
    · cases h
      rfl
    · cases h
  -- The name is the longest run of characters that names of attributes may have.
  have hchars : ∀ c ∈ a.name.toList, isAttributeChar c = true :=
    (NamedExpression.forall_name hparse).2
  intro l heq
  have hbrace : '{' ∈ a.name.toList := by
    rw [← hname, heq, attributeKey_toList]
    exact List.mem_cons_self
  have hfalse := hchars _ hbrace
  revert hfalse
  decide

/-- Setting an attribute of another namespace leaves what waits, and makes no prefix stand for
the namespace of the standard language. -/
theorem taggedWith_elsewhere {site : Site} {target : Option String × String} {value : String}
    {made : Prefixes} (huri : ∀ uri, target.1 = some uri → isElsewhere uri = true)
    (hplain : target.1 = none → ∀ l, target.2 ≠ attributeKey standardUri l) :
    (taggedWith site target value made).1.waiting = site.element.tag.waiting ∧
      NewElsewhere site.innerScope
        ((taggedWith site target value made).1.frame :: site.scope) := by
  obtain ⟨uri?, localName⟩ := target
  -- An attribute alone declares nothing.
  have hsame : ∀ (name : Name), NewElsewhere site.innerScope
      ((site.element.tag.withAttribute name value).frame :: site.scope) := by
    intro name p uri h
    rw [Tag.frame_withAttribute] at h
    exact .inl h
  unfold taggedWith
  cases uri? with
  | none =>
    have hforeign : (Name.plain localName).Foreign := hplain rfl
    exact ⟨Tag.waiting_withAttribute _ hforeign _, hsame _⟩
  | some uri =>
    have helsewhere := huri uri rfl
    dsimp only
    cases hb : site.innerScope.bindingFor? uri true with
    | some b =>
      have hbinding : isElsewhere b.uri = true := by
        rw [Scope.bindingFor?_uri hb]
        exact helsewhere
      exact ⟨Tag.waiting_withAttribute _ (foreign_of_isElsewhere hbinding _) _, hsame _⟩
    | none =>
      -- Here a binding is declared on the element, for the namespace of the attribute.
      have hbinding : isElsewhere (newBinding site.innerScope none uri made).1.uri = true := by
        rw [newBinding_uri]
        exact helsewhere
      refine ⟨Tag.waiting_withAttribute _ (foreign_of_isElsewhere hbinding _) _, ?_⟩
      intro p u h
      rw [Tag.frame_withAttribute, Scope.uri?_cons, Tag.frame, declared?_append, Option.or_assoc,
        Option.or_eq_some_iff, Option.or_eq_some_iff] at h
      rw [show site.innerScope = site.element.tag.frame :: site.scope from rfl, Scope.uri?_cons,
        Tag.frame, Option.or_eq_some_iff]
      rcases h with hdeclared | ⟨hdeclared, hnew | ⟨-, houter⟩⟩
      · exact .inl (.inl hdeclared)
      · obtain ⟨b, hb, rfl⟩ := Option.map_eq_some_iff.mp hnew
        obtain rfl := List.mem_singleton.mp (List.mem_of_find?_eq_some hb)
        exact .inr hbinding
      · exact .inl (.inr ⟨hdeclared, houter⟩)

/-- Removing an attribute of another namespace leaves what waits. -/
theorem removeAttribute_elsewhere {site : Site} {target : Option String × String} {here : Element}
    (huri : ∀ uri, target.1 = some uri → isElsewhere uri = true)
    (hplain : target.1 = none → ∀ l, target.2 ≠ attributeKey standardUri l)
    (h : removeAttribute site.element target = .ok here) :
    here.tag.waiting = site.element.tag.waiting ∧
      NewElsewhere site.innerScope (here.tag.frame :: site.scope) := by
  obtain ⟨uri?, localName⟩ := target
  obtain ⟨-, rfl⟩ := removeAttribute_eq_ok_iff.mp h
  refine ⟨Tag.waiting_withoutAttribute _ ?_, fun p uri h => .inl h⟩
  cases uri? with
  | none => exact hplain rfl
  | some uri => exact foreign_of_isElsewhere (b := ⟨none, uri⟩) (huri uri rfl) localName

/-- Assignments in other namespaces leave what waits. -/
theorem waiting_of_assignAttributes {ev : Expr.Evaluator} {site : Site} {arguments : List String}
    {s s' : RunState} {e : Element} (h : (assignAttributes ev site arguments).Gives s e s')
    (helsewhere : AssignElsewhere site.innerScope arguments) :
    e.tag.waiting = site.element.tag.waiting := by
  induction arguments generalizing site s with
  | nil =>
    obtain ⟨rfl, -⟩ := assignAttributes_nil_gives_iff.mp h
    rfl
  | cons argument arguments ih =>
    obtain ⟨a, target, v, s₁, here, s₂, hparse, htarget, -, hassign, hrest⟩ :=
      assignAttributes_cons_gives_iff.mp h
    -- One assignment leaves what waits, and whether the others are elsewhere is still known after
    -- it.
    have hhere : here.tag.waiting = site.element.tag.waiting ∧
        NewElsewhere site.innerScope (here.tag.frame :: site.scope) := by
      have huri : ∀ uri, target.1 = some uri → isElsewhere uri = true := by
        intro uri huri
        refine helsewhere argument List.mem_cons_self a hparse uri target.2 ?_
        rw [htarget, ← huri]
      have hplain : target.1 = none → ∀ l, target.2 ≠ attributeKey standardUri l := by
        intro hnone
        have hplain : attributeTarget site.innerScope a.name = .ok (none, target.2) := by
          rw [htarget, ← hnone]
        exact plain_of_attributeTarget hparse hplain
      cases hundefined : v.isUndefined with
      | true =>
        rw [hundefined] at hassign
        obtain ⟨hremove, -⟩ := hassign
        exact removeAttribute_elsewhere huri hplain hremove
      | false =>
        rw [hundefined] at hassign
        obtain ⟨text, -, hset⟩ := hassign
        obtain ⟨-, -, rfl, -⟩ := setAttribute_gives_iff.mp hset
        exact taggedWith_elsewhere huri hplain
    rw [ih hrest, hhere.1]
    intro argument' hargument' a' hparse' uri localName htarget'
    rcases attributeTarget_of_newElsewhere hhere.2 htarget' with hbefore | hdone
    · exact helsewhere argument' (List.mem_cons_of_mem _ hargument') a' hparse' uri localName hbefore
    · exact hdone

/-! ### Accounts of marks -/

/-- A note tells of a mark: it names the element and all attributes in order. -/
def Event.Tells (e : Event) (m : Mark) : Prop :=
  ∃ name : Name, name.unprefixed = m.element ∧
    e = .unhandled m.names standardUri name.written m.line

/-- Marks that notes account for: none has a directive, and each has been noted, in order. -/
structure Accounted (marks : List Mark) (new : List Event) : Prop where
  undirected : ∀ m ∈ marks, m.Undirected
  noted : ∃ notes, notes.Sublist new ∧ List.Forall₂ Event.Tells notes marks

/-- Between two states notes were added that account for marks. -/
def RunState.AccountsFor (s s' : RunState) (marks : List Mark) : Prop :=
  ∃ new, s'.events = s.events ++ new ∧ Accounted marks new

/-- What is accounted for piece by piece is accounted for. -/
theorem Accounted.append {ms₁ ms₂ : List Mark} {es₁ es₂ : List Event} (h₁ : Accounted ms₁ es₁)
    (h₂ : Accounted ms₂ es₂) : Accounted (ms₁ ++ ms₂) (es₁ ++ es₂) := by
  obtain ⟨notes₁, hsub₁, htells₁⟩ := h₁.noted
  obtain ⟨notes₂, hsub₂, htells₂⟩ := h₂.noted
  refine ⟨?_, notes₁ ++ notes₂, hsub₁.append hsub₂, List.rel_append htells₁ htells₂⟩
  exact List.forall_mem_append.mpr ⟨h₁.undirected, h₂.undirected⟩

namespace RunState

/-- If nothing is placed there is nothing to account for. -/
theorem accountsFor_nil {s s' : RunState} (h : s.Grows s') :
    s.AccountsFor s' [] := by
  obtain ⟨new, hnew⟩ := h
  exact ⟨new, hnew, (fun m hm => nomatch hm), [], List.nil_sublist new, .nil⟩

/-- Two stretches of a run account for what either has placed. -/
theorem AccountsFor.trans {s t u : RunState} {ms₁ ms₂ : List Mark} (h₁ : s.AccountsFor t ms₁)
    (h₂ : t.AccountsFor u ms₂) : s.AccountsFor u (ms₁ ++ ms₂) := by
  obtain ⟨new₁, hnew₁, hms₁⟩ := h₁
  obtain ⟨new₂, hnew₂, hms₂⟩ := h₂
  exact ⟨new₁ ++ new₂, by rw [hnew₂, hnew₁, List.append_assoc], hms₁.append hms₂⟩

/-- What is left over on an element, no directive, is accounted for. -/
theorem accountsFor_leaving {s : RunState} {site : Site}
    (h : ∀ w ∈ site.element.tag.waiting, Directive.ofTag? w.1 = none) :
    s.AccountsFor (s.leaving site site.element.tag.waiting) site.element.tag.marks := by
  rw [leaving_waiting]
  refine ⟨_, rfl, ?_, site.element.tag.notes, List.Sublist.refl _, ?_⟩
  · unfold Tag.marks
    split
    · exact fun m hm => nomatch hm
    · intro m hm name hname
      rw [List.mem_singleton.mp hm] at hname
      obtain ⟨w, hw, rfl⟩ := List.mem_map.mp hname
      exact h w hw
  · unfold Tag.notes Tag.marks
    split
    · exact .nil
    · exact .cons ⟨_, rfl, rfl⟩ .nil

end RunState

/-- Processing in a walk accounts for the marks of what it leaves. -/
def Walk.Accounts (walk : Walk) : Prop :=
  ∀ ⦃site s reply s'⦄, (walk site).Gives s reply s' → s.AccountsFor s' reply.marks

/-- By induction on the nodes: each element accounts for what comes in its place. -/
theorem Walk.Accounts.walkNodes {walk : Walk} (hwalk : walk.Accounts) {scope : Scope}
    {locals : Entries} {ns out : List Node} {s s' : RunState}
    (h : (walkNodes walk scope locals ns).Gives s out s') : s.AccountsFor s' (marksList out) := by
  induction ns generalizing s out with
  | nil =>
    obtain ⟨rfl, rfl⟩ := walkNodes_nil_gives_iff.mp h
    exact RunState.accountsFor_nil .rfl
  | cons n ns ih =>
    cases n with
    | element tag children =>
      obtain ⟨reply, s₁, here, s₂, rest, hreply, hhere, hrest, rfl⟩ :=
        walkNodes_element_gives_iff.mp h
      rw [marksList_append, Reply.marks_place hhere]
      -- Placing what an element became makes up prefixes at most.
      have hplaced := RunState.accountsFor_nil (Reply.place_gives hhere).2.2.calm.grows
      have := ((hwalk hreply).trans hplaced).trans (ih hrest)
      rwa [List.append_nil] at this
    | comment | instruction | reference | text =>
      obtain ⟨rest, hrest, rfl⟩ := (walkNodes_other_gives_iff rfl).mp h
      show s.AccountsFor s' (marksList rest)
      exact ih hrest

/-- By induction on the items: each copy accounts for what the walk makes of it. -/
theorem Walk.Accounts.repeatFrom {walk : Walk} (hwalk : walk.Accounts) {copy : Element}
    {locals loops : Entries} {name : String} {length index : Nat} {items : List Value}
    {results : List Item} {s s' : RunState}
    (h : (repeatFrom walk copy locals loops name length index items).Gives s results s') :
    s.AccountsFor s' (results.flatMap Item.marks) ∧ ∀ item ∈ results, item.isItself = false := by
  -- By induction on the values that are left, along with the accounts of the copies made so far.
  induction items generalizing s index results with
  | nil =>
    obtain ⟨rfl, rfl⟩ := repeatFrom_nil_gives_iff.mp h
    exact ⟨RunState.accountsFor_nil .rfl, fun item hitem => nomatch hitem⟩
  | cons item items ih =>
    obtain ⟨reply, s₁, rest, hreply, hrest, rfl⟩ := repeatFrom_cons_gives_iff.mp h
    obtain ⟨haccounts, hitself⟩ := ih hrest
    constructor
    · -- A copy has a document of its own, but its notes come to those of the run.
      have hmarks : (reply.items.map Item.ofCopy).flatMap Item.marks = reply.marks := by
        rw [List.flatMap_map, ← reply.marks_items]
        exact congrArg (fun f => reply.items.flatMap f) (funext Item.marks_ofCopy)
      have hcopy : s.inFreshCopy.AccountsFor s₁ reply.marks := hwalk hreply
      have hback : s.AccountsFor (s₁.backIn s) reply.marks := hcopy
      rw [List.flatMap_append, hmarks]
      exact hback.trans haccounts
    · intro item hitem
      rcases List.mem_append.mp hitem with hitem | hitem
      · obtain ⟨item', hitem', rfl⟩ := List.mem_map.mp hitem
        exact Item.ofCopy_not_itself (reply.items_not_itself item' hitem')
      · exact hitself item hitem

/-! ### The invariant on an element -/

/-- Directives are permitted whose handling brings in no attributes of the standard language. -/
def Call.isForeign (c : Call) : Bool := c.insertsUnmarked && c.assignsElsewhere

/-- What a directive does on a site: what waits on the element stays as it is, if the element
stays, and otherwise the marks of what stands in its place are accounted for. -/
def Site.KeepsAccounts (site : Site) (s s' : RunState) : Reply → Prop
  | .stays e _ => e.tag.waiting = site.element.tag.waiting
  | .becomes left items => s.AccountsFor s' (Reply.becomes left items).marks
  | .opens left => s.AccountsFor s' (Reply.opens left).marks

section

variable {permitted : Call → Bool} {ev : Expr.Evaluator} {walk : Walk}

/-- Each directive accounts for what it lets the walk process, and what it inserts has no marks. -/
theorem handle_keepsAccounts (hwalk : walk.Accounts) {d : Directive} {raw : String} {site : Site}
    {s s' : RunState} {reply : Reply}
    (hforeign : Call.isForeign ⟨ev, d, raw, site, s.globals⟩ = true)
    (h : (d.handle ev walk raw site).Gives s reply s') : site.KeepsAccounts s s' reply := by
  obtain ⟨hunmarked, helsewhere⟩ := Bool.and_eq_true_iff.mp hforeign
  -- Only `repeat`, `replace` and `omit-tag` put something in the place of the element.
  cases d with
  | define =>
    obtain ⟨locals, -, rfl⟩ := define_gives_iff.mp h
    rfl
  | condition =>
    obtain ⟨v, hv, rfl⟩ := condition_gives_iff.mp h
    split
    · rfl
    · exact RunState.accountsFor_nil (calm_of_evaluateIn hv).grows
  | repetition =>
    obtain ⟨a, v, s₁, -, hv, h⟩ := repetition_gives_iff.mp h
    have hs₁ := RunState.accountsFor_nil (calm_of_evaluateIn hv).grows
    split at h
    · obtain ⟨items, loops, results, -, -, hresults, rfl⟩ := h
      obtain ⟨haccounts, hitself⟩ := hwalk.repeatFrom hresults
      show s.AccountsFor s' (results.flatMap fun item => (item.resolve site.element).marks)
      rw [flatMap_marks_resolve hitself]
      exact hs₁.trans haccounts
    · obtain ⟨rfl, rfl⟩ := h
      exact hs₁
  | content =>
    obtain ⟨items, notes, s₁, children, -, -, -, rfl⟩ := content_gives_iff.mp h
    rfl
  | replace =>
    obtain ⟨items, notes, hitems, rfl, rfl⟩ := replace_gives_iff.mp h
    show s.AccountsFor _ (items.flatMap fun item => (item.resolve site.element).marks)
    rw [flatMap_marks_resolve (inserted_not_itself hitems),
      unmarked_of_insertsUnmarked hunmarked (.inr rfl) hitems]
    exact RunState.accountsFor_nil (s.grows_noting notes)
  | attributes =>
    obtain ⟨e, he, rfl⟩ := attributes_gives_iff.mp h
    exact waiting_of_assignAttributes he (assignElsewhere_of_call helsewhere)
  | omitTag =>
    obtain ⟨out, notes, -, h⟩ := omitTag_gives_iff.mp h
    have hnoting : s.AccountsFor (s.noting notes) [] := RunState.accountsFor_nil (s.grows_noting notes)
    cases out with
    | false =>
      obtain ⟨rfl, rfl⟩ := h
      rfl
    | true =>
      obtain ⟨children, hchildren, rfl⟩ := h
      exact hnoting.trans (hwalk.walkNodes hchildren)

/-- Where the handling of some directives has led to. If the element is still there, what waits
is what it still carries, and none of them is among it. Otherwise the marks of what stands in its
place are accounted for. -/
def Site.ReachesAccounting (site : Site) (ds : List Directive) (left : List (String × String))
    (s s' : RunState) : Progress → Prop
  | .done reply => s.AccountsFor s' reply.marks
  | .on here => s.AccountsFor s' [] ∧ here.element.tag.waiting = left ∧
      ∀ w ∈ left, w ∈ site.element.tag.waiting ∧ ∀ d ∈ ds, w.1 ≠ d.tag

/-- By recursion on the directives: each is taken off and handled, and the site left to the next is
accounted for. -/
theorem handleDirectives_accounted (hforeign : ∀ c, permitted c = true → c.isForeign = true)
    (hwalk : walk.Accounts) (hwithin : ∀ site, (walk site).Within (walk site))
    {ds : List Directive} {site : Site} {progress : Progress} {left : List (String × String)}
    {s s' : RunState}
    (h : (handleDirectives permitted ev walk site site.element.tag.waiting ds).Gives s
      (progress, left) s') :
    site.ReachesAccounting ds left s s' progress := by
  -- The invariant: what waits is what the element carries, without the directives handled so far.
  induction ds generalizing site s with
  | nil =>
    obtain ⟨hdone, rfl⟩ := handleDirectives_nil_gives_iff.mp h
    cases hdone
    exact ⟨RunState.accountsFor_nil .rfl, rfl,
      fun w hw => ⟨hw, fun d hd => nomatch hd⟩⟩
  | cons d ds ih =>
    obtain ⟨hnone, h⟩ | ⟨raw, reply, s₁, hraw, hp, hhandle, hrest⟩ :=
      handleDirectives_cons_gives_iff.mp h
    · -- A directive that does not wait is not on the element.
      have hreached := ih h
      cases progress with
      | done reply => exact hreached
      | on here =>
        obtain ⟨haccounts, hwaiting, hleft⟩ := hreached
        refine ⟨haccounts, hwaiting, fun w hw => ⟨(hleft w hw).1, ?_⟩⟩
        rintro d' hd'
        rcases List.mem_cons.mp hd' with rfl | hd'
        · have hne := List.lookup_eq_none_iff.mp hnone w (hleft w hw).1
          exact fun heq => bne_iff_ne.mp hne heq.symm
        · exact (hleft w hw).2 d' hd'
    · have hkeeps : (site.without d).KeepsAccounts (s.noting [site.announcement d raw]) s₁ reply :=
        handle_keepsAccounts hwalk (hforeign _ hp) hhandle
      have hnoted : s.AccountsFor (s.noting [site.announcement d raw]) [] :=
        RunState.accountsFor_nil (s.grows_noting _)
      have hhandled : s.AccountsFor s₁ [] :=
        hnoted.trans (RunState.accountsFor_nil ((d.handle_within hwithin).grows hhandle))
      have hwithout : (site.without d).element.tag.waiting
          = site.element.tag.waiting.filter fun w => w.1 != d.tag :=
        Tag.waiting_without _ _
      cases reply with
      | becomes left' items =>
        obtain ⟨hdone, rfl⟩ := hrest
        cases hdone
        exact hnoted.trans hkeeps
      | opens left' =>
        obtain ⟨hdone, rfl⟩ := hrest
        cases hdone
        exact hnoted.trans hkeeps
      | stays e locals =>
        -- The directive is off the element, and handling it has not brought it back.
        have hwaiting : e.tag.waiting
            = site.element.tag.waiting.filter fun w => w.1 != d.tag :=
          hkeeps.trans hwithout
        rw [← hwaiting] at hrest
        have hreached := ih hrest
        cases progress with
        | done reply => exact hhandled.trans hreached
        | on here =>
          obtain ⟨haccounts, hwaiting', hleft⟩ := hreached
          refine ⟨hhandled.trans haccounts, hwaiting', fun w hw => ?_⟩
          obtain ⟨hmem, hds⟩ := hleft w hw
          rw [hwaiting, List.mem_filter, bne_iff_ne] at hmem
          exact ⟨hmem.1, List.forall_mem_cons.mpr ⟨hmem.2, hds⟩⟩

/-- Processing accounts for the marks of what it leaves. -/
theorem permittedWalk_accounts (hforeign : ∀ c, permitted c = true → c.isForeign = true)
    (fuel : Nat) : (permittedWalk permitted ev fuel).Accounts := by
  induction fuel with
  | zero =>
    intro site s reply s' h
    exact (gives_throw_iff.mp h).elim
  | succ fuel ih =>
    intro site s reply s' h
    obtain ⟨progress, left, s₁, hdirectives, hrest⟩ := permittedWalk_succ_gives_iff.mp h
    have hreached := handleDirectives_accounted hforeign ih
      (permittedWalk_within (fun _ hc => hc) (Nat.le_refl _)) hdirectives
    cases progress with
    | done r =>
      obtain ⟨rfl, rfl⟩ := hrest
      exact hreached
    | on here =>
      obtain ⟨children, hchildren, rfl⟩ := hrest
      obtain ⟨haccounts, rfl, hleft⟩ := hreached
      -- All directives have been handled, so what is left over is none.
      have hundirected : ∀ w ∈ here.element.tag.waiting, Directive.ofTag? w.1 = none := by
        intro w hw
        rw [Directive.ofTag?_eq_none_iff]
        exact fun d => (hleft w hw).2 d d.mem_all
      exact (haccounts.trans (RunState.accountsFor_leaving hundirected)).trans
        (ih.walkNodes hchildren)

end

/-- Directives are consumed. When an element has been processed and nothing of the standard
language was brought in, then no element in what stands for it carries a directive. Whatever else
an element there carries in the namespace of the standard language was noted, in order. This
holds for the items that stand for an element without a parent, and for the nodes that stand in
the parent of any other. -/
theorem directives_consumed {ev : Expr.Evaluator} {fuel : Nat} {site : Site} {s s' : RunState}
    {reply : Reply} (hrun : (standardWalk ev fuel site).Gives s reply s')
    (hforeign : (permittedWalk Call.isForeign ev fuel site).Succeeds s) :
    ∃ new, s'.events = s.events ++ new ∧ Accounted (reply.items.flatMap Item.marks) new ∧
      ∀ {scope nodes s''}, (reply.place scope).Gives s' nodes s'' →
        Accounted (marksList nodes) new := by
  have hpermitted := permitted_of_standardWalk hrun hforeign
  obtain ⟨new, hnew, haccounted⟩ := permittedWalk_accounts (fun _ hc => hc) fuel hpermitted
  refine ⟨new, hnew, ?_, fun hplace => ?_⟩
  · rw [reply.marks_items]
    exact haccounted
  · rw [Reply.marks_place hplace]
    exact haccounted

/-- A list that is filled with numbers. An element on each level has an attribute that is no
directive besides those that are. -/
def numberList : Element where
  tag := ⟨.plain "ul", [standardAttribute "colour" "red"], [⟨some "tal", standardUri⟩], some 1⟩
  children := [
    .element ⟨.plain "li", [standardAttribute "repeat" "n numbers", standardAttribute "size" "1"],
        [], some 2⟩
      [.element ⟨.plain "b", [standardAttribute "omit-tag" ""], [], some 3⟩
        [.element ⟨.plain "i",
            [standardAttribute "content" "n", standardAttribute "weight" "2"], [], some 4⟩ []]]]

/-- A state in which there are two numbers. -/
def twoNumbers : RunState where
  globals := [(.str "numbers", .list [.int 1, .int 2])]
  events := []
  made := 0
  inCopy := false

/-- A list of two numbers: what is left on each element is what its steps have not handled. -/
theorem directives_consumed_in_numberList :
    ∃ reply s' new, (standardWalk .standard 9 ⟨numberList, [], []⟩).Gives twoNumbers reply s' ∧
      s'.events = [] ++ new ∧ Accounted (reply.items.flatMap Item.marks) new ∧
      (reply.items.flatMap Item.marks).map Mark.names
        = [["colour"], ["size"], ["weight"], ["size"], ["weight"]] := by
  have hforeign : (permittedWalk Call.isForeign .standard 9 ⟨numberList, [], []⟩).Succeeds
      twoNumbers := by decide +kernel
  obtain ⟨reply, s', hpermitted⟩ := succeeds_iff.mp hforeign
  have hrun := standardWalk_of_permitted hpermitted
  obtain ⟨new, hnew, haccounted, -⟩ := directives_consumed hrun hforeign
  have hnames : ((standardWalk .standard 9 ⟨numberList, [], []⟩).run.run twoNumbers).1.toOption.map
      (fun reply => (reply.items.flatMap Item.marks).map Mark.names)
        = some [["colour"], ["size"], ["weight"], ["size"], ["weight"]] := by decide +kernel
  rw [show (standardWalk .standard 9 ⟨numberList, [], []⟩).run.run twoNumbers = _ from hrun]
    at hnames
  exact ⟨reply, s', new, hrun, hnew, haccounted, Option.some.inj hnames⟩

end AttrTemplates
