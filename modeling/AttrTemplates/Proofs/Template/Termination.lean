import AttrTemplates.Proofs.Template.Alike
import AttrTemplates.Proofs.Template.Consumed
import AttrTemplates.Proofs.Template.Dispatch

/-!
# `AttrTemplates.Proofs.Template.Termination`: processing comes to an end

Processing goes down in a tree that grows on the way: `repeat` makes copies of the element, and
`content` inserts markup of any size. `processNode` stops at a depth. `processFrom` is the same
but for what it does at that depth, which is left open. Processing comes to an end when some depth
is enough for it: from there on neither more depth nor what happens at the bottom makes a
difference.

What goes down is the weight of an element, the number of elements and attributes in it. A child
weighs less than its parent, and a copy less than the element that is repeated, since `repeat` has
been taken off. What `content` inserts can weigh anything, but where nothing of it is marked it
asks for nothing but the walk through it.

* `Settles` says that some depth is enough for a step of processing;
* `Node.weight_copied`: copies weigh what the copied weighs;
* `walk_settles` is the main result. Marked insertions are refused in it, so it holds of all
  templates and all data, and where nothing was refused of the standard language.
-/

set_option autoImplicit false

namespace AttrTemplates

open Xml Run

/-! ### Weight -/

namespace Xml

mutual

/-- The number of elements and attributes in a node. -/
def Node.weight : Node → Nat
  | .element tag children => 1 + tag.attributes.length + weightList children
  | _ => 0

/-- The number of elements and attributes in nodes. -/
def weightList : List Node → Nat
  | [] => 0
  | n :: ns => n.weight + weightList ns

end

/-- A node weighs no more than the nodes it is among. -/
theorem weight_le_weightList {n : Node} {ns : List Node} (h : n ∈ ns) :
    n.weight ≤ weightList ns := by
  induction ns with
  | nil => cases h
  | cons m ns ih =>
    rw [weightList]
    rcases List.mem_cons.mp h with rfl | h
    · exact Nat.le_add_right _ _
    · exact Nat.le_trans (ih h) (Nat.le_add_left _ _)

/-- There are as many copies of attributes as attributes. -/
theorem length_copiedAttributes (inner : Scope) (added : List Binding) (as : List Attribute) :
    (copiedAttributes inner added as).1.length = as.length := by
  induction as generalizing added with
  | nil => rfl
  | cons a as ih => exact congrArg (· + 1) (ih _)

mutual

/-- A copy has the elements and attributes of what is copied. -/
theorem Node.weight_copied (inner : Scope) (added : List Binding) :
    (n : Node) → (n.copied inner added).1.weight = n.weight
  | .element tag children => by
    simp only [Node.copied, Node.weight, length_copiedAttributes,
      weightList_copiedList _ _ children]
  | .comment .. => rfl
  | .instruction .. => rfl
  | .reference _ => rfl
  | .text _ => rfl

/-- Copies of nodes weigh as much as the nodes. -/
theorem weightList_copiedList (inner : Scope) (added : List Binding) :
    (ns : List Node) → weightList (copiedList inner added ns).1 = weightList ns
  | [] => rfl
  | n :: ns => by
    simp only [copiedList, weightList, Node.weight_copied _ _ n, weightList_copiedList _ _ ns]

end

/-- The number of elements and attributes in an element, itself included. -/
def Element.weight (e : Element) : Nat := e.toNode.weight

/-- A copy that stands alone weighs as much as its element. -/
theorem Element.weight_standalone (e : Element) : e.standalone.weight = e.weight := by
  have hcopied := Node.weight_copied [] [] e.toNode
  unfold Element.standalone
  split
  · rename_i tag children added h
    rw [h] at hcopied
    exact hcopied
  · rfl

/-- An element in a list of children weighs less than the parent. -/
theorem Element.weight_child {e child : Element} (h : child.toNode ∈ e.children) :
    child.weight < e.weight := by
  have hle := weight_le_weightList h
  show child.toNode.weight < 1 + e.tag.attributes.length + weightList e.children
  omega

end Xml

/-! ### Steps for which some depth is enough -/

/-- The way to process an element, with what happens at the bottom left open. -/
def processFrom (languages : List Language) (ev : Expr.Evaluator) (bottom : Walk) : Nat → Walk
  | 0 => bottom
  | fuel + 1 => processWith languages ev (processFrom languages ev bottom fuel)

/-- Processing down to a depth fails at the bottom. -/
theorem processNode_eq_processFrom (languages : List Language) (ev : Expr.Evaluator)
    (fuel : Nat) :
    processNode languages ev fuel
      = processFrom languages ev (fun _ => throw .nestingTooDeep) fuel := by
  induction fuel with
  | zero => rfl
  | succ fuel ih => rw [processNode, processFrom, ih]

/-- The standard language in which a directive that is not permitted is refused. -/
def Language.refusing (refusal : Failure) (permitted : Call → Bool) : Language where
  uri := standardUri
  tags := Directive.all.map Directive.tag
  label := Language.standard.label
  handle ev walk tag raw site :=
    match Directive.ofTag? tag with
    | some d => do
      let s ← get
      if permitted ⟨ev, d, raw, site, s.globals⟩ then d.handle ev walk raw site
      else throw refusal
    | none => throw (.missingKey tag)

/-- A step of processing, for every depth and every bottom. -/
abbrev Descent (α : Type) := Nat → Walk → Run α

/-- Some depth is enough for a step: from there on `guarded` comes to one outcome, whatever
happens at the bottom, and `free` to the same unless that is the refusal. A result has the
property `Q`. -/
def Settles {α : Type} (refusal : Failure) (free guarded : Descent α) (s : RunState)
    (Q : α → Prop) : Prop :=
  ∃ enough outcome, (∀ fuel, enough ≤ fuel → ∀ bottom,
    (guarded fuel bottom).run.run s = outcome ∧
      (outcome.1 ≠ .error refusal → (free fuel bottom).run.run s = outcome)) ∧
    ∀ a s', outcome = (.ok a, s') → Q a

namespace Settles

variable {α β : Type} {refusal : Failure} {free guarded free' guarded' : Descent α}
  {s : RunState} {Q : α → Prop}

/-- A step that does not go down. -/
theorem of_run {r : Run α} (hQ : ∀ a s', r.Gives s a s' → Q a) :
    Settles refusal (fun _ _ => r) (fun _ _ => r) s Q :=
  ⟨0, _, fun _ _ _ => ⟨rfl, fun _ => rfl⟩, hQ⟩

/-- What a step gives at any depth, it gives in the end. -/
theorem of_gives {R : α → Prop} (h : Settles refusal free guarded s Q)
    (hR : ∀ fuel bottom a s', (guarded fuel bottom).Gives s a s' → R a) :
    Settles refusal free guarded s R := by
  obtain ⟨enough, outcome, hrun, -⟩ := h
  refine ⟨enough, outcome, hrun, fun a s' hend => ?_⟩
  have hguarded := (hrun enough le_rfl fun _ => throw refusal).1
  exact hR enough _ a s' (hguarded.trans hend)

/-- Runs may be replaced by others that do the same. -/
theorem congr (h : Settles refusal free guarded s Q)
    (hfree : ∀ fuel bottom, (free' fuel bottom).run.run s = (free fuel bottom).run.run s)
    (hguarded : ∀ fuel bottom, (guarded' fuel bottom).run.run s = (guarded fuel bottom).run.run s) :
    Settles refusal free' guarded' s Q := by
  obtain ⟨enough, outcome, hrun, hend⟩ := h
  refine ⟨enough, outcome, fun fuel hfuel bottom => ?_, hend⟩
  rw [hfree, hguarded]
  exact hrun fuel hfuel bottom

/-- One level more is enough for a step that takes the other one level down. -/
theorem deeper (h : Settles refusal free guarded s Q)
    (hfree : ∀ fuel bottom, free' (fuel + 1) bottom = free fuel bottom)
    (hguarded : ∀ fuel bottom, guarded' (fuel + 1) bottom = guarded fuel bottom) :
    Settles refusal free' guarded' s Q := by
  obtain ⟨enough, outcome, hrun, hend⟩ := h
  refine ⟨enough + 1, outcome, fun fuel hfuel bottom => ?_, hend⟩
  obtain ⟨fuel, rfl⟩ : ∃ n, fuel = n + 1 := ⟨fuel - 1, by omega⟩
  rw [hfree, hguarded]
  exact hrun fuel (by omega) bottom

/-- The greater of two depths is enough for a sequence. -/
theorem bind {f f' : Nat → Walk → α → Run β} {R : β → Prop}
    (h : Settles refusal free guarded s Q)
    (hf : ∀ a s', Q a → Settles refusal (f · · a) (f' · · a) s' R) :
    Settles refusal (fun fuel bottom => free fuel bottom >>= f fuel bottom)
      (fun fuel bottom => guarded fuel bottom >>= f' fuel bottom) s R := by
  obtain ⟨enough, ⟨result, s'⟩, hrun, hend⟩ := h
  cases result with
  | error e =>
    -- A failure is the outcome of the sequence.
    refine ⟨enough, (.error e, s'), fun fuel hfuel bottom => ?_, fun _ _ h => nomatch h⟩
    obtain ⟨hguarded, hfree⟩ := hrun fuel hfuel bottom
    refine ⟨by rw [run_bind, hguarded], fun hne => ?_⟩
    rw [run_bind, hfree fun h => hne (by cases h; rfl)]
  | ok a =>
    obtain ⟨enough', outcome, hrun', hend'⟩ := hf a s' (hend a s' rfl)
    refine ⟨max enough enough', outcome, fun fuel hfuel bottom => ?_, hend'⟩
    obtain ⟨hguarded, hfree⟩ := hrun fuel (by omega) bottom
    obtain ⟨hguarded', hfree'⟩ := hrun' fuel (by omega) bottom
    refine ⟨by rw [run_bind, hguarded]; exact hguarded', fun hne => ?_⟩
    rw [run_bind, hfree fun h => nomatch h]
    exact hfree' hne

/-- A step that does not go down may come first. -/
theorem after {r : Run α} {f f' : Nat → Walk → α → Run β} {R : β → Prop}
    (hf : ∀ a s', Settles refusal (f · · a) (f' · · a) s' R) :
    Settles refusal (fun fuel bottom => r >>= f fuel bottom)
      (fun fuel bottom => r >>= f' fuel bottom) s R :=
  (of_run fun _ _ _ => trivial).bind (Q := fun _ => True) fun a s' _ => hf a s'

/-- A result that is given at once settles at once. -/
theorem pure {a : α} (h : Q a) :
    Settles refusal (fun _ _ => Pure.pure a) (fun _ _ => Pure.pure a) s Q :=
  of_run fun _ _ ha => by
    obtain ⟨rfl, -⟩ := gives_pure_iff.mp ha
    exact h

end Settles

/-! ### What settles when elements do -/

section

variable {refusal : Failure} {free guarded : Nat → Walk → Walk} {scope : Scope}
  {locals : Entries} {s : RunState}

/-- Some depth is enough for processing an element, wherever it stands. -/
def Xml.Element.Ends (refusal : Failure) (free guarded : Nat → Walk → Walk) (e : Element) : Prop :=
  ∀ scope locals s, Settles refusal (fun fuel bottom => free fuel bottom ⟨e, scope, locals⟩)
    (fun fuel bottom => guarded fuel bottom ⟨e, scope, locals⟩) s fun _ => True

/-- Some depth is enough for all elements in a list. -/
def EndsOn (refusal : Failure) (free guarded : Nat → Walk → Walk) (ns : List Node) : Prop :=
  ∀ e : Element, e.toNode ∈ ns → e.Ends refusal free guarded

/-- If some depth is enough for each element of a list, one is enough for all. -/
theorem walkNodes_settles {ns : List Node} (h : EndsOn refusal free guarded ns) :
    Settles refusal (fun fuel bottom => walkNodes (free fuel bottom) scope locals ns)
      (fun fuel bottom => walkNodes (guarded fuel bottom) scope locals ns) s fun _ => True := by
  induction ns generalizing s with
  | nil => exact .pure trivial
  | cons n ns ih =>
    have hbehind : EndsOn refusal free guarded ns := fun e he => h e (List.mem_cons_of_mem n he)
    cases n with
    | element tag children =>
      refine (h ⟨tag, children⟩ List.mem_cons_self scope locals s).bind fun reply s₁ _ => ?_
      exact .after fun here s₂ => (ih hbehind).bind fun rest s₃ _ => .pure trivial
    | comment | instruction | reference | text =>
      exact (ih hbehind).bind fun rest s₁ _ => .pure trivial

/-- By induction on the items: the copy is lighter than the element with its loop, so each walk of
it settles. -/
theorem repeatFrom_settles {copy : Element} (h : copy.Ends refusal free guarded)
    {loops : Entries} {name : String} {length index : Nat} {items : List Value} :
    Settles refusal
      (fun fuel bottom => repeatFrom (free fuel bottom) copy locals loops name length index items)
      (fun fuel bottom =>
        repeatFrom (guarded fuel bottom) copy locals loops name length index items)
      s fun _ => True := by
  induction items generalizing s index with
  | nil => exact .pure trivial
  | cons item items ih =>
    refine Settles.bind (Q := fun _ => True) ?_ fun reply s₁ _ =>
      ih.bind fun rest s₂ _ => .pure trivial
    -- The copy is processed between steps that do not go down.
    refine .after fun before s₁ => .after fun _ s₂ => ?_
    exact (h _ _ s₂).bind fun reply s₃ _ => .after fun _ s₄ => .pure trivial

/-- Assignments to attributes touch nothing inside the element. -/
theorem children_of_assignAttributes {ev : Expr.Evaluator} {site : Site}
    {arguments : List String} {e : Element} {s' : RunState}
    (h : (assignAttributes ev site arguments).Gives s e s') :
    e.children = site.element.children := by
  induction arguments generalizing site s with
  | nil =>
    obtain ⟨rfl, -⟩ := assignAttributes_nil_gives_iff.mp h
    rfl
  | cons argument arguments ih =>
    obtain ⟨a, target, v, s₁, here, s₂, -, -, -, hassign, hrest⟩ :=
      assignAttributes_cons_gives_iff.mp h
    have hhere : here.children = site.element.children := by
      split at hassign
      · obtain ⟨-, rfl⟩ := removeAttribute_eq_ok_iff.mp hassign.1
        rfl
      · obtain ⟨text, -, hset⟩ := hassign
        obtain ⟨-, -, rfl, -⟩ := setAttribute_gives_iff.mp hset
        rfl
    rw [ih hrest, hhere]

/-- Where nothing marked is filled in, the children are unmarked afterwards. -/
theorem unmarked_of_content {ev : Expr.Evaluator} {raw : String} {site : Site} {reply : Reply}
    {s' : RunState} (hcall : Call.fillsUnmarked ⟨ev, .content, raw, site, s.globals⟩ = true)
    (h : (content ev raw site).Gives s reply s') :
    ∃ children, marksList children = [] ∧
      reply = .stays { site.element with children } site.locals := by
  obtain ⟨items, notes, s₁, children, hitems, -, hsettle, rfl⟩ := content_gives_iff.mp h
  have hinserts : Call.insertsUnmarked ⟨ev, .content, raw, site, s.globals⟩ = true := hcall
  refine ⟨children, ?_, rfl⟩
  rw [marksList_of_settleAll hsettle, flatMap_marks_resolve (inserted_not_itself hitems)]
  exact unmarked_of_insertsUnmarked hinserts (.inl rfl) hitems

/-- What a directive leaves of an element that is still there: children for which some depth is
enough, and before `repeat` the element as it was. -/
def Directive.Leaves (refusal : Failure) (free guarded : Nat → Walk → Walk) (d : Directive)
    (site : Site) (reply : Reply) : Prop :=
  ∀ e locals, reply = .stays e locals →
    EndsOn refusal free guarded e.children ∧
      (d = .define ∨ d = .condition → e = site.element)

/-- A directive that is permitted leaves the children as they were, or others without marks, for
which some depth is enough as well. -/
theorem Directive.leaves_of_handle {ev : Expr.Evaluator} {walk : Walk} {d : Directive} {raw : String}
    {site : Site} {reply : Reply} {s' : RunState}
    (hchildren : EndsOn refusal free guarded site.element.children)
    (hfill : d = .content → ∀ ns, marksList ns = [] → EndsOn refusal free guarded ns)
    (hpermitted : Call.fillsUnmarked ⟨ev, d, raw, site, s.globals⟩ = true)
    (h : (d.handle ev walk raw site).Gives s reply s') :
    d.Leaves refusal free guarded site reply := by
  rintro e locals rfl
  cases Directive.staysAs_of_handle h with
  | define | condition | omitTag => exact ⟨hchildren, fun _ => rfl⟩
  | content =>
    obtain ⟨_, hunmarked, hreply⟩ := unmarked_of_content hpermitted h
    cases hreply
    exact ⟨hfill rfl _ hunmarked, by simp⟩
  | attributes hassign =>
    rw [children_of_assignAttributes hassign]
    exact ⟨hchildren, by simp⟩

/-- Some depth is enough for a directive, if one is for the children, for the copies that it makes
and for what it fills in. -/
theorem handle_settles {ev : Expr.Evaluator} {d : Directive} {raw : String} {site : Site}
    (hchildren : EndsOn refusal free guarded site.element.children)
    (hcopy : d = .repetition → site.element.standalone.Ends refusal free guarded)
    (hfill : d = .content → ∀ ns, marksList ns = [] → EndsOn refusal free guarded ns)
    (hpermitted : Call.fillsUnmarked ⟨ev, d, raw, site, s.globals⟩ = true) :
    Settles refusal (fun fuel bottom => d.handle ev (free fuel bottom) raw site)
      (fun fuel bottom => d.handle ev (guarded fuel bottom) raw site) s
      (d.Leaves refusal free guarded site) := by
  refine Settles.of_gives (Q := fun _ => True) ?_ fun _ _ _ _ h =>
    Directive.leaves_of_handle hchildren hfill hpermitted h
  -- Only `repeat` and `omit-tag` go down, to the copies and to the children.
  cases d with
  | define => exact .of_run (r := AttrTemplates.define ev raw site) fun _ _ _ => trivial
  | condition => exact .of_run (r := AttrTemplates.condition ev raw site) fun _ _ _ => trivial
  | content => exact .of_run (r := AttrTemplates.content ev raw site) fun _ _ _ => trivial
  | replace => exact .of_run (r := AttrTemplates.replace ev raw site) fun _ _ _ => trivial
  | attributes => exact .of_run (r := AttrTemplates.attributes ev raw site) fun _ _ _ => trivial
  | repetition =>
    refine .after fun a s₁ => .after fun v s₂ => ?_
    split
    · exact .pure trivial
    · split
      · exact .of_run fun _ _ _ => trivial
      · exact .after fun loops s₃ =>
          (repeatFrom_settles (hcopy rfl)).bind fun results s₄ _ => .pure trivial
  | omitTag =>
    have hbehind : ∀ (keep : Bool) s₁, Settles refusal
        (fun fuel bottom => openUnless (free fuel bottom) site keep)
        (fun fuel bottom => openUnless (guarded fuel bottom) site keep) s₁ fun _ => True := by
      intro keep s₁
      cases keep with
      | true => exact .pure trivial
      | false => exact (walkNodes_settles hchildren).bind fun children s₂ _ => .pure trivial
    simp only [Directive.handle, omitTag_eq]
    split
    · exact hbehind false s
    · exact .after fun v s₁ => hbehind _ s₁

/-- What is not permitted is refused, anything else is handled as the standard language does. -/
theorem refusing_handle_run (ev : Expr.Evaluator) (permitted : Call → Bool) (walk : Walk)
    (d : Directive) (raw : String) (site : Site) :
    ((Language.refusing refusal permitted).handle ev walk d.tag raw site).run.run s
      = if permitted ⟨ev, d, raw, site, s.globals⟩ then (d.handle ev walk raw site).run.run s
        else (.error refusal, s) := by
  simp only [Language.refusing, d.ofTag?_tag]
  rw [run_bind]
  show (if permitted ⟨ev, d, raw, site, s.globals⟩ then _ else _ : Run Reply).run.run s = _
  split <;> rfl

/-- The standard language handles its tags as directives. -/
theorem standard_handle (ev : Expr.Evaluator) (walk : Walk) (d : Directive) (raw : String)
    (site : Site) :
    Language.standard.handle ev walk d.tag raw site = d.handle ev walk raw site := by
  simp only [Language.standard, d.ofTag?_tag]

/-- The same where marked insertions are refused. -/
theorem refusing_handle_settles {ev : Expr.Evaluator} {d : Directive} {raw : String} (site : Site)
    (hchildren : EndsOn refusal free guarded site.element.children)
    (hcopy : d = .repetition → site.element.standalone.Ends refusal free guarded)
    (hfill : d = .content → ∀ ns, marksList ns = [] → EndsOn refusal free guarded ns) :
    Settles refusal
      (fun fuel bottom => Language.standard.handle ev (free fuel bottom) d.tag raw site)
      (fun fuel bottom => (Language.refusing refusal Call.fillsUnmarked).handle ev
        (guarded fuel bottom) d.tag raw site) s
      (d.Leaves refusal free guarded site) := by
  cases hpermitted : Call.fillsUnmarked ⟨ev, d, raw, site, s.globals⟩ with
  | true =>
    refine (handle_settles hchildren hcopy hfill hpermitted).congr (fun fuel bottom => ?_)
      fun fuel bottom => ?_
    · rw [standard_handle]
    · rw [refusing_handle_run, hpermitted, if_pos rfl]
  | false =>
    refine ⟨0, (.error refusal, s), fun fuel _ bottom => ⟨?_, fun h => (h rfl).elim⟩,
      fun _ _ h => nomatch h⟩
    rw [refusing_handle_run, hpermitted]
    rfl

/-! ### Elements -/

/-- An element weighs less once a directive that waits on it has been taken off. -/
theorem weight_without_lt (site : Site) {d : Directive}
    (h : site.element.tag.waiting.lookup d.tag ≠ none) :
    (site.without d).element.weight < site.element.weight := by
  obtain ⟨raw, hraw⟩ := Option.ne_none_iff_exists'.mp h
  obtain ⟨front, behind, hsplit, -⟩ := List.lookup_eq_some_iff.mp hraw
  have hmem : (d.tag, raw) ∈ site.element.tag.waiting := by
    rw [hsplit]
    exact List.mem_append_right _ List.mem_cons_self
  obtain ⟨a, ha, hkey⟩ := List.mem_map.mp hmem
  obtain ⟨ha, huri⟩ := List.mem_filter.mp ha
  -- The attribute is among those that go with the key of the directive.
  have hclark : a.name.clark = attributeKey standardUri d.tag := by
    rw [Name.clark_of_standard (beq_iff_eq.mp huri), (Prod.mk.inj hkey).1]
  have hfewer : (site.without d).element.tag.attributes.length
      < site.element.tag.attributes.length :=
    List.length_filter_lt_length_iff_exists.mpr ⟨a, ha, by simp [hclark]⟩
  show 1 + (site.without d).element.tag.attributes.length + weightList site.element.children
    < 1 + site.element.tag.attributes.length + weightList site.element.children
  omega

/-- Taking off one directive more makes no element heavier. -/
theorem weight_without_without_le (site : Site) (d d' : Directive) :
    ((site.without d).without d').element.weight ≤ (site.without d').element.weight := by
  have hfewer : ((site.without d).without d').element.tag.attributes.length
      ≤ (site.without d').element.tag.attributes.length :=
    (List.filter_sublist.filter _).length_le
  show 1 + ((site.without d).without d').element.tag.attributes.length
      + weightList site.element.children
    ≤ 1 + (site.without d').element.tag.attributes.length + weightList site.element.children
  omega

/-- Some depth is enough for the directives of an element, if one is for its children, for what is
no heavier than the element without `repeat` if that waits, and for what is unmarked if `content`
waits. -/
theorem handleTags_settles {ev : Expr.Evaluator} {site : Site}
    {waiting : List (String × String)} (ds : List Directive)
    (horder : ds.Pairwise fun d d' => d' = .repetition → d = .define ∨ d = .condition)
    (hchildren : EndsOn refusal free guarded site.element.children)
    (hcopies : .repetition ∈ ds → waiting.lookup Directive.repetition.tag ≠ none →
      ∀ e : Element, e.weight ≤ (site.without .repetition).element.weight →
        e.Ends refusal free guarded)
    (hfill : waiting.lookup Directive.content.tag ≠ none →
      ∀ ns, marksList ns = [] → EndsOn refusal free guarded ns) :
    Settles refusal
      (fun fuel bottom =>
        handleTags .standard ev (free fuel bottom) site waiting (ds.map Directive.tag))
      (fun fuel bottom => handleTags (.refusing refusal Call.fillsUnmarked) ev (guarded fuel bottom)
        site waiting (ds.map Directive.tag)) s
      (fun r => ∀ here, r.1 = .on here → EndsOn refusal free guarded here.element.children) := by
  -- Until `repeat` is handled the element only loses attributes. Afterwards no copy is made.
  induction ds generalizing site waiting s with
  | nil => exact .pure fun here h => by cases h; exact hchildren
  | cons d ds ih =>
    obtain ⟨hfirst, horder⟩ := List.pairwise_cons.mp horder
    simp only [List.map_cons, handleTags]
    cases hraw : waiting.lookup d.tag with
    | none => exact ih horder hchildren (fun h => hcopies (List.mem_cons_of_mem d h)) hfill
    | some raw =>
      have hwaited : ∀ {tag}, (waiting.filter fun w => w.1 != d.tag).lookup tag ≠ none →
          waiting.lookup tag ≠ none := by
        intro tag h hnone
        rw [lookup_filter_ne, hnone, ite_self] at h
        exact h rfl
      refine .after fun _ s₁ => ?_
      refine (refusing_handle_settles (site.without d) hchildren (fun hd => ?_)
        (fun hd => ?_)).bind fun reply s₂ hleaves => ?_
      · subst hd
        refine hcopies List.mem_cons_self (fun h => ?_) _
          (Nat.le_of_eq (Element.weight_standalone _))
        rw [hraw] at h
        cases h
      · subst hd
        exact hfill fun h => by rw [hraw] at h; cases h
      · cases reply with
        | stays e locals =>
          obtain ⟨hinside, hbefore⟩ := hleaves e locals rfl
          refine ih horder hinside (fun hmem hwaits small hsmall => ?_) (hfill ∘ hwaited)
          refine hcopies (List.mem_cons_of_mem d hmem) (hwaited hwaits) small ?_
          have he := hbefore (hfirst _ hmem rfl)
          subst he
          exact Nat.le_trans hsmall (weight_without_without_le site d .repetition)
        | becomes | opens => exact .pure fun _ h => by cases h

/-- The same for all that is done about directives on an element. -/
theorem handleLanguages_settles {ev : Expr.Evaluator} (site : Site)
    (hchildren : EndsOn refusal free guarded site.element.children)
    (hcopies : site.element.tag.waiting.lookup Directive.repetition.tag ≠ none →
      ∀ e : Element, e.weight ≤ (site.without .repetition).element.weight →
        e.Ends refusal free guarded)
    (hfill : site.element.tag.waiting.lookup Directive.content.tag ≠ none →
      ∀ ns, marksList ns = [] → EndsOn refusal free guarded ns) :
    Settles refusal
      (fun fuel bottom => handleLanguages ev (free fuel bottom) site
        (pendingOn [.standard] site.element.tag) [.standard])
      (fun fuel bottom => handleLanguages ev (guarded fuel bottom) site
        (pendingOn [.standard] site.element.tag) [.refusing refusal Call.fillsUnmarked]) s
      (fun progress => ∀ here, progress = .on here →
        EndsOn refusal free guarded here.element.children) := by
  -- There is one language in either list, and both look for the same directives.
  have hwaiting : ((pendingOn [.standard] site.element.tag).lookup standardUri).getD []
      = site.element.tag.waiting :=
    lookup_pendingOn (List.mem_singleton_self Language.standard) _
  have hstandard : Language.standard.uri = standardUri := rfl
  have hrefusing : (Language.refusing refusal Call.fillsUnmarked).uri = standardUri := rfl
  simp only [handleLanguages, hstandard, hrefusing]
  cases hlookup : (pendingOn [.standard] site.element.tag).lookup standardUri with
  | none => exact .pure fun here h => by cases h; exact hchildren
  | some waiting =>
    rw [hlookup, Option.getD_some] at hwaiting
    subst hwaiting
    refine (handleTags_settles Directive.all (by decide) hchildren (fun _ => hcopies)
      hfill).bind fun r s₁ hhere => ?_
    obtain ⟨progress, left⟩ := r
    cases progress with
    | done reply => exact .pure fun _ h => by cases h
    | on here =>
      dsimp only
      split
      · exact .after fun _ s₂ => .pure hhere
      · exact .pure hhere

/-- Some depth is enough for an element, if one is for its children, for the copies that it may
make and for what may be filled in. -/
theorem processWith_settles {ev : Expr.Evaluator} {e : Element}
    (hchildren : EndsOn refusal free guarded e.children)
    (hcopies : e.tag.waiting.lookup Directive.repetition.tag ≠ none →
      ∀ small : Element, small.weight < e.weight → small.Ends refusal free guarded)
    (hfill : e.tag.waiting.lookup Directive.content.tag ≠ none →
      ∀ ns, marksList ns = [] → EndsOn refusal free guarded ns) :
    Settles refusal
      (fun fuel bottom => processWith [.standard] ev (free fuel bottom) ⟨e, scope, locals⟩)
      (fun fuel bottom => processWith [.refusing refusal Call.fillsUnmarked] ev
        (guarded fuel bottom) ⟨e, scope, locals⟩) s fun _ => True := by
  have hsmall : e.tag.waiting.lookup Directive.repetition.tag ≠ none →
      ∀ small : Element,
        small.weight ≤ (Site.without ⟨e, scope, locals⟩ .repetition).element.weight →
          small.Ends refusal free guarded := fun h small hle =>
    hcopies h small (Nat.lt_of_le_of_lt hle (weight_without_lt ⟨e, scope, locals⟩ h))
  refine (handleLanguages_settles ⟨e, scope, locals⟩ hchildren hsmall hfill).bind
    fun progress s₁ hhere => ?_
  cases progress with
  | done reply => exact .pure trivial
  | on here =>
    exact (walkNodes_settles (hhere here rfl)).bind fun children s₂ _ => .pure trivial

end

section

variable (ev : Expr.Evaluator) (refusal : Failure)

/-- Processing down to a depth in the standard language. -/
abbrev freeWalk (fuel : Nat) (bottom : Walk) : Walk := processFrom [.standard] ev bottom fuel

/-- The same where marked insertions are refused. -/
abbrev guardedWalk (fuel : Nat) (bottom : Walk) : Walk :=
  processFrom [.refusing refusal Call.fillsUnmarked] ev bottom fuel

variable {ev refusal}

/-- An element ends as soon as there is some depth for what is one level below it. -/
theorem Xml.Element.ends_of_below {e : Element}
    (hchildren : EndsOn refusal (freeWalk ev) (guardedWalk ev refusal) e.children)
    (hcopies : e.tag.waiting.lookup Directive.repetition.tag ≠ none → ∀ small : Element,
      small.weight < e.weight → small.Ends refusal (freeWalk ev) (guardedWalk ev refusal))
    (hfill : e.tag.waiting.lookup Directive.content.tag ≠ none →
      ∀ ns, marksList ns = [] → EndsOn refusal (freeWalk ev) (guardedWalk ev refusal) ns) :
    e.Ends refusal (freeWalk ev) (guardedWalk ev refusal) := fun _ _ _ =>
  (processWith_settles hchildren hcopies hfill).deeper (fun _ _ => rfl) fun _ _ => rfl

/-- Some depth is enough for what is unmarked: no directive is handled in it, so that processing
is a walk through the tree. -/
theorem endsOn_of_unmarked (ns : List Node) (h : marksList ns = []) :
    EndsOn refusal (freeWalk ev) (guardedWalk ev refusal) ns := by
  -- By the weight, which is smaller for every child. Nothing is copied or filled.
  have hunmarked : ∀ (k : Nat) (e : Element), e.weight < k → e.toNode.marks = [] →
      e.Ends refusal (freeWalk ev) (guardedWalk ev refusal) := by
    intro k
    induction k with
    | zero => exact fun e he => absurd he (Nat.not_lt_zero _)
    | succ k ih =>
      intro e he hmarks
      obtain ⟨htag, hchildren⟩ := List.append_eq_nil_iff.mp hmarks
      have hwaiting : e.tag.waiting = [] := Tag.marks_eq_nil_iff.mp htag
      refine Element.ends_of_below (fun child hchild => ?_) (fun h => ?_) (fun h => ?_)
      · rw [marksList_eq_flatMap, List.flatMap_eq_nil_iff] at hchildren
        have hlight := Element.weight_child hchild
        exact ih child (by omega) (hchildren _ hchild)
      · exact (h (by rw [hwaiting]; rfl)).elim
      · exact (h (by rw [hwaiting]; rfl)).elim
  intro e he
  rw [marksList_eq_flatMap, List.flatMap_eq_nil_iff] at h
  exact hunmarked _ e (Nat.lt_succ_self _) (h _ he)

/-- Some depth is enough for every element, by induction on its weight. -/
theorem Xml.Element.ends (ev : Expr.Evaluator) (refusal : Failure) (e : Element) :
    e.Ends refusal (freeWalk ev) (guardedWalk ev refusal) := by
  have hlight : ∀ (k : Nat) (e : Element), e.weight < k →
      e.Ends refusal (freeWalk ev) (guardedWalk ev refusal) := by
    intro k
    induction k with
    | zero => exact fun e he => absurd he (Nat.not_lt_zero _)
    | succ k ih =>
      intro e he
      refine Element.ends_of_below (fun child hchild => ?_)
        (fun _ small hsmall => ih small (by omega)) fun _ => endsOn_of_unmarked
      have hchild := Element.weight_child hchild
      exact ih child (by omega)
  exact hlight _ e (Nat.lt_succ_self _)

end

/-- Processing comes to an end. For every element and all contexts some depth is enough: however
much more is allowed, processing comes to the same outcome, a reply or a failure. A directive
`content` that would insert markup with attributes of the standard language is refused in that,
under a failure of one's own choice. Where the outcome is another, nothing was refused, and the
standard language itself comes to that outcome without ever getting to the bottom. -/
theorem walk_settles (ev : Expr.Evaluator) (refusal : Failure) (site : Site) (s : RunState) :
    ∃ enough outcome, ∀ fuel, enough ≤ fuel →
      (processNode [.refusing refusal Call.fillsUnmarked] ev fuel site).run.run s = outcome ∧
      (outcome.1 ≠ .error refusal →
        (standardWalk ev fuel site).run.run s = outcome ∧
        ∀ bottom, (processFrom [.standard] ev bottom fuel site).run.run s = outcome) := by
  obtain ⟨enough, outcome, hrun, -⟩ := site.element.ends ev refusal site.scope site.locals s
  refine ⟨enough, outcome, fun fuel hfuel => ?_⟩
  obtain ⟨hguarded, hfree⟩ := hrun fuel hfuel fun _ => throw .nestingTooDeep
  refine ⟨?_, fun hne => ⟨?_, fun bottom => (hrun fuel hfuel bottom).2 hne⟩⟩
  · rw [processNode_eq_processFrom]
    exact hguarded
  · rw [standardWalk, processNode_eq_processFrom]
    exact hfree hne

end AttrTemplates
