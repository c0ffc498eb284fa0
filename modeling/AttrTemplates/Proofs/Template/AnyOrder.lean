import AttrTemplates.Proofs.Template.Alongside
import AttrTemplates.Proofs.Template.Reordered
import AttrTemplates.Proofs.Template.Termination
import AttrTemplates.Proofs.Template.Untouched

/-!
# `AttrTemplates.Proofs.Template.AnyOrder`: directives in any order

In which order the directives of an element are handled is fixed by the language. Here it is shown
that their places among the attributes do not count for anything else either.

Two elements that differ in these places are processed side by side. `define`, `condition` and
`repeat` change nothing of an element, so that up to them the two are reordered as a whole
(`Site.Whole`), and so are the copies of them. The other directives change children and attributes.
From there on the elements are compared without the directives that still wait (`Site.Matched`).

* There is one lemma for each directive, such as `attributes_matches`.
* `handleTags_matches` is the run through some directives, for any relation that each of them keeps.
* `processNode_matches` is the induction on the depth, and `directives_in_any_order` the result.
* `attribute_order_names_insertion` shows why insertions with marks are set apart: the prefix that
  they get in a copy depends on the order of the attributes, and a note can name it.
-/

set_option autoImplicit false

namespace AttrTemplates

open Xml Run

/-- Handling stands the same on two elements: both are still there and related by `R`, or replies
that are the same but for prefixes have been given. -/
inductive Progress.Matched (R : Site → Site → Prop) : Progress → Progress → Prop
  | on {a b : Site} : R a b → Matched R (.on a) (.on b)
  | done {r₁ r₂ : Reply} : r₁.Matched r₂ → Matched R (.done r₁) (.done r₂)

/-- Steps about two elements that come to the same end, after which handling stands the same on
both. -/
abbrev AnswersMatch (refusal : Failure) (R : Site → Site → Prop) (a b : Site) (s t : RunState)
    (r₁ r₂ : Run Reply) : Prop :=
  Matches refusal (fun reply₁ reply₂ => Progress.Matched R (reply₁.progress a) (reply₂.progress b))
    s t r₁ r₂

/-- Two walkers come to the same end on elements that are reordered, and on what was filled in. -/
structure WalksMatched (refusal : Failure) (walk₁ walk₂ : Walk) : Prop where
  element : ∀ {a b : Site} {s t : RunState}, a.Reordered b → s.SameButMade t →
    Matches refusal Reply.Matched s t (walk₁ a) (walk₂ b)
  inserted : ∀ {ms ns : List Node} {s t : RunState}, InsertedAlike ms ns → s.SameButMade t →
    ∀ scope₁ scope₂ locals, Matches refusal UnprefixedAlike s t (walkNodes walk₁ scope₁ locals ms)
      (walkNodes walk₂ scope₂ locals ns)

section

variable {refusal : Failure} {s t : RunState} {ev : Expr.Evaluator} {raw : String} {a b : Site}
  {walk₁ walk₂ : Walk} {R : Site → Site → Prop} {waiting : List (String × String)}

/-! ### Nodes one after the other -/

/-- By induction on the nodes: those of a template are walked in both places, element by element. -/
theorem WalksMatched.template (hwalk : WalksMatched refusal walk₁ walk₂) {scope₁ scope₂ : Scope}
    (hscopes : scope₁.Alike scope₂) {locals : Entries} {ms ns : List Node}
    (h : ReorderedList ms ns) (hbound : areBound scope₁ ms = true) (hst : s.SameButMade t) :
    Matches refusal UnprefixedAlike s t (walkNodes walk₁ scope₁ locals ms)
      (walkNodes walk₂ scope₂ locals ns) := by
  induction ms generalizing ns s t with
  | nil =>
    cases h
    exact matches_pure hst rfl
  | cons m ms ih =>
    obtain ⟨hm, hms⟩ := Bool.and_eq_true_iff.mp hbound
    cases h with
    | @cons _ n _ ns hn hns =>
      -- A node that is not an element is the same on both sides and stays as it is.
      cases hn with
      | @element tag₁ tag₂ children₁ children₂ htag hchildren =>
        have hsite : Site.Reordered ⟨⟨tag₁, children₁⟩, scope₁, locals⟩
            ⟨⟨tag₂, children₂⟩, scope₂, locals⟩ := ⟨hscopes, .element htag hchildren, hm, rfl⟩
        refine (hwalk.element hsite hst).bind fun reply₁ reply₂ s₁ t₁ hreply h₁ => ?_
        refine (hreply.place_matches h₁ _ _).bind fun here₁ here₂ s₂ t₂ hhere h₂ => ?_
        refine (ih hns hms h₂).bind fun rest₁ rest₂ s₃ t₃ hrest h₃ => matches_pure h₃ ?_
        unfold UnprefixedAlike at *
        rw [unprefixedList_append, unprefixedList_append, hhere, hrest]
      | other hother =>
        cases m with
        | element => cases hother
        | comment | instruction | reference | text =>
          refine (ih hns hms hst).bind fun rest₁ rest₂ s₁ t₁ hrest h₁ => matches_pure h₁ ?_
          unfold UnprefixedAlike at *
          rw [unprefixedList, unprefixedList, hrest]

/-- Content is that of the template, or what has been put in its place and holds no directives. -/
theorem WalksMatched.content (hwalk : WalksMatched refusal walk₁ walk₂) {scope₁ scope₂ : Scope}
    (hscopes : scope₁.Alike scope₂) (locals : Entries) {ms ns : List Node}
    (h : ContentMatched scope₁ ms ns) (hst : s.SameButMade t) :
    Matches refusal UnprefixedAlike s t (walkNodes walk₁ scope₁ locals ms)
      (walkNodes walk₂ scope₂ locals ns) := by
  cases h with
  | template hns hbound => exact hwalk.template hscopes hns hbound hst
  | inserted hns => exact hwalk.inserted hns hst _ _ _

/-! ### Directives -/

/-- By induction on the arguments: each definition is made of the same value. -/
theorem makeDefinitions_matches (locals : Entries) (arguments : List String)
    (hst : s.SameButMade t) :
    Matches refusal Eq s t (makeDefinitions ev locals arguments)
      (makeDefinitions ev locals arguments) := by
  induction arguments generalizing locals s t with
  | nil => exact matches_pure hst rfl
  | cons argument arguments ih =>
    refine matches_lift_bind hst fun d _ => matches_evaluateIn_bind hst fun v s₁ t₁ h₁ => ?_
    cases d.isGlobal with
    | true =>
      refine (matches_modify ?_).bind fun _ _ s₂ t₂ _ h₂ => ih locals h₂
      unfold RunState.SameButMade at h₁ ⊢
      rw [h₁]
    | false => exact ih _ h₁

/-- The definitions of a directive are made in both contexts, and the rest of the sites stays
related. -/
theorem define_matches (hlocals : a.locals = b.locals)
    (hR : ∀ locals, R { a with locals } { b with locals }) (hst : s.SameButMade t) :
    AnswersMatch refusal R a b s t (define ev raw a) (define ev raw b) := by
  unfold define
  rw [← hlocals]
  refine (makeDefinitions_matches _ _ hst).bind fun locals _ s₁ t₁ hlocals h₁ => ?_
  subst hlocals
  exact matches_pure h₁ (.on (hR locals))

/-- A condition depends on the contexts alone. -/
theorem condition_matches (hlocals : a.locals = b.locals) (hR : R a b) (hst : s.SameButMade t) :
    AnswersMatch refusal R a b s t (condition ev raw a) (condition ev raw b) := by
  obtain ⟨e₁, scope₁, locals⟩ := a
  obtain ⟨e₂, scope₂, locals'⟩ := b
  obtain rfl : locals = locals' := hlocals
  refine matches_evaluateIn_bind hst fun v s₁ t₁ h₁ => matches_pure h₁ ?_
  cases v.truth with
  | true => exact .on hR
  | false => exact .done (.becomes .nil)

/-- What a value becomes as content is never the element itself. -/
theorem fragment_not_itself {v : Value} {items : List Item} (h : fragment v = .ok items) :
    ∀ item ∈ items, item.isItself = false :=
  forall_fragment (P := fun item => item.isItself = false) (fun _ _ => itemsOfContent_not_itself)
    (fun _ _ _ => rfl) v items h

/-- A replacement depends on the contexts alone. -/
theorem replace_matches (hlocals : a.locals = b.locals) (hst : s.SameButMade t) :
    AnswersMatch refusal R a b s t (replace ev raw a) (replace ev raw b) := by
  unfold replace
  rw [← hlocals]
  refine matches_lift_bind hst fun argument _ =>
    matches_evaluateIn_bind hst fun v s₁ t₁ h₁ => ?_
  split
  · exact matches_pure h₁ (.done (.becomes .nil))
  · split
    · exact matches_lift_bind h₁ fun items hitems =>
        matches_pure h₁ (.done (.becomes (.rfl (fragment_not_itself hitems))))
    · exact matches_lift_bind h₁ fun text _ =>
        matches_pure h₁ (.done (.becomes (.rfl (List.forall_mem_singleton.mpr rfl))))

/-- What comes into two elements is the same but for prefixes, and has no marks. -/
theorem content_matches (h : a.Matched waiting b) (hst : s.SameButMade t)
    (hcall : Call.fillsUnmarked ⟨ev, .content, raw, a, s.globals⟩ = true) :
    AnswersMatch refusal (Site.Matched waiting) a b s t (content ev raw a) (content ev raw b) := by
  have hsame : Matches refusal (fun r₁ r₂ => ∃ children₁ children₂,
      unprefixedList children₁ = unprefixedList children₂ ∧
        r₁ = .stays { a.element with children := children₁ } a.locals ∧
        r₂ = .stays { b.element with children := children₂ } b.locals) s t
      (content ev raw a) (content ev raw b) := by
    unfold content
    rw [← h.locals]
    refine matches_lift_bind hst fun argument _ =>
      matches_evaluateIn_bind hst fun v s₁ t₁ h₁ => ?_
    refine (emptyOut_matches h₁ _ _).bind fun _ _ s₂ t₂ _ h₂ => ?_
    split
    · exact matches_pure h₂ ⟨[], [], rfl, rfl, rfl⟩
    · split
      · refine matches_lift_bind h₂ fun items hitems => ?_
        exact (settleAll_matches (.rfl (fragment_not_itself hitems)) h₂ _ _ _ _).bind
          fun children₁ children₂ s₃ t₃ hchildren h₃ =>
            matches_pure h₃ ⟨children₁, children₂, hchildren, rfl, rfl⟩
      · exact matches_lift_bind h₂ fun text _ => matches_lift_bind h₂ fun _ _ =>
          matches_pure h₂ ⟨[.text text], [.text text], rfl, rfl, rfl⟩
  -- That there are no marks is known of the first reply only, from the guard. The second has none
  -- either, since the children are the same but for prefixes.
  refine hsame.of_gives fun {r₁ r₂ s'} hgives hr => ?_
  obtain ⟨children₁, children₂, hchildren, rfl, rfl⟩ := hr
  obtain ⟨children, hmarks, hreply⟩ := unmarked_of_content hcall hgives
  cases hreply
  exact .on ⟨h.scopes, h.tags, .inserted ⟨hmarks, hchildren⟩, h.locals⟩

/-- An attribute is set under names that are the same but for prefixes, and no declaration is
needed. -/
theorem setAttribute_matches (h : a.Matched waiting b) (hst : s.SameButMade t) {name : String}
    {target : Option String × String} (htarget : attributeTarget a.innerScope name = .ok target)
    (value : String) :
    Matches refusal (fun e₁ e₂ => Site.Matched waiting { a with element := e₁ }
      { b with element := e₂ }) s t
      (setAttribute a target value) (setAttribute b target value) := by
  obtain ⟨uri?, localName⟩ := target
  unfold setAttribute
  dsimp only
  split
  · exact (matches_throw (Q := fun _ _ => False) _ hst).bind fun _ _ _ _ h _ => h.elim
  · split
    · exact (matches_throw (Q := fun _ _ => False) _ hst).bind fun _ _ _ _ h _ => h.elim
    · refine matches_lift_bind hst fun _ _ => ?_
      -- Under either name the attribute is the same but for its prefix.
      have hset : ∀ {name₁ name₂ : Name}, name₁.unprefixed = name₂.unprefixed →
          Site.Matched waiting
            { a with
              element := { a.element with tag := a.element.tag.withAttribute name₁ value } }
            { b with
              element := { b.element with tag := b.element.tag.withAttribute name₂ value } } :=
        fun hname => h.retag (Tag.frame_withAttribute _ _ _) (Tag.frame_withAttribute _ _ _)
          (h.tags.withAttribute hname value)
      rcases attributeTarget_eq_ok_iff.mp htarget with ⟨-, heq⟩ | ⟨p, uri, -, huri, heq⟩
      · cases heq
        exact matches_pure hst (hset rfl)
      · -- In a coherent scope a prefix with a meaning gives a binding, so none has to be made.
        obtain rfl : uri? = some uri := heq
        obtain ⟨b₁, hb₁⟩ := h.scopes.coherent₁.bindingFor?_of_meaning huri
        rw [h.scopes.meaning?] at huri
        obtain ⟨b₂, hb₂⟩ := h.scopes.coherent₂.bindingFor?_of_meaning huri
        simp only [hb₁, hb₂]
        refine matches_pure hst (hset (Name.unprefixed_eq ?_ rfl))
        show some b₁.uri = some b₂.uri
        rw [Scope.bindingFor?_uri hb₁, Scope.bindingFor?_uri hb₂]

/-- An attribute is removed from both, or its name is turned down for both. -/
theorem removeAttribute_matches (h : a.Matched waiting b) (hst : s.SameButMade t)
    (target : Option String × String) :
    Matches refusal (fun e₁ e₂ => Site.Matched waiting { a with element := e₁ }
      { b with element := e₂ }) s t (liftM (removeAttribute a.element target))
      (liftM (removeAttribute b.element target)) := by
  unfold removeAttribute
  dsimp only
  split
  · exact matches_throw _ hst
  · exact matches_pure hst (h.retag rfl rfl (h.tags.withoutAttribute _))

/-- Assignments mean the same on both elements, since their prefixes do. -/
theorem assignAttributes_matches (h : a.Matched waiting b) (hst : s.SameButMade t)
    (arguments : List String) :
    Matches refusal (fun e₁ e₂ => Site.Matched waiting { a with element := e₁ }
      { b with element := e₂ }) s t (assignAttributes ev a arguments)
      (assignAttributes ev b arguments) := by
  obtain ⟨e₁, scope₁, locals⟩ := a
  obtain ⟨e₂, scope₂, locals'⟩ := b
  obtain rfl : locals = locals' := h.locals
  -- By induction on the arguments, while the elements change: each leaves two that match again.
  induction arguments generalizing e₁ e₂ s t with
  | nil => exact matches_pure hst h
  | cons argument arguments ih =>
    refine matches_lift_bind hst fun assignment _ => ?_
    rw [← h.scopes.attributeTarget]
    refine matches_lift_bind hst fun target htarget =>
      matches_evaluateIn_bind hst fun v s₁ t₁ h₁ => ?_
    split
    · exact (removeAttribute_matches h h₁ target).bind fun _ _ s₂ t₂ h h₂ => ih h₂ _ _ h
    · refine matches_lift_bind h₁ fun text _ => ?_
      exact (setAttribute_matches h h₁ htarget text).bind fun _ _ s₂ t₂ h h₂ => ih h₂ _ _ h

/-- The attributes of a directive are set on both, in whatever order they come in already. -/
theorem attributes_matches (h : a.Matched waiting b) (hst : s.SameButMade t) :
    AnswersMatch refusal (Site.Matched waiting) a b s t (attributes ev raw a)
      (attributes ev raw b) := by
  obtain ⟨e₁, scope₁, locals⟩ := a
  obtain ⟨e₂, scope₂, locals'⟩ := b
  obtain rfl : locals = locals' := h.locals
  exact (assignAttributes_matches h hst _).bind fun _ _ s₁ t₁ h h₁ => matches_pure h₁ (.on h)

/-- Whether the tag is kept or not, the same is left of both elements. -/
theorem openUnless_matches (hwalk : WalksMatched refusal walk₁ walk₂) (h : a.Matched waiting b)
    (hst : s.SameButMade t) (keep : Bool) :
    AnswersMatch refusal (Site.Matched waiting) a b s t (openUnless walk₁ a keep)
      (openUnless walk₂ b keep) := by
  unfold openUnless
  cases keep with
  | true => exact matches_pure hst (.on h)
  | false =>
    have hchildren := hwalk.content h.scopes a.locals h.content hst
    rw [← h.locals]
    exact hchildren.bind fun _ _ s₁ t₁ hchildren h₁ => matches_pure h₁ (.done (.opens hchildren))

/-- Without its tag each element leaves its children, which are walked in matching scopes. -/
theorem omitTag_matches (hwalk : WalksMatched refusal walk₁ walk₂) (h : a.Matched waiting b)
    (hst : s.SameButMade t) :
    AnswersMatch refusal (Site.Matched waiting) a b s t (omitTag ev walk₁ raw a)
      (omitTag ev walk₂ raw b) := by
  obtain ⟨e₁, scope₁, locals⟩ := a
  obtain ⟨e₂, scope₂, locals'⟩ := b
  obtain rfl : locals = locals' := h.locals
  rw [omitTag_eq, omitTag_eq]
  split
  · exact openUnless_matches hwalk h hst false
  · exact matches_evaluateIn_bind hst fun v s₁ t₁ h₁ => openUnless_matches hwalk h h₁ _

/-- The copies that `repeat` makes of two elements are processed to the same ends. -/
theorem repeatFrom_matches (hwalk : WalksMatched refusal walk₁ walk₂) {copy₁ copy₂ : Element}
    (hcopy : copy₁.toNode.Reordered copy₂.toNode) (hbound : copy₁.toNode.isBound [] = true)
    (hst : s.SameButMade t) (locals loops : Entries) (name : String) (length index : Nat)
    (items : List Value) :
    Matches refusal ItemsMatched s t (repeatFrom walk₁ copy₁ locals loops name length index items)
      (repeatFrom walk₂ copy₂ locals loops name length index items) := by
  induction items generalizing index s t with
  | nil => exact matches_pure hst .nil
  | cons item items ih =>
    have halone : Scope.Alike [] [] := Scope.Coherent.alike trivial
    have hsite : ∀ context, Site.Reordered ⟨copy₁, [], context⟩ ⟨copy₂, [], context⟩ :=
      fun _ => ⟨halone, hcopy, hbound, rfl⟩
    refine (inNewCopy_matches hst fun h => hwalk.element (hsite _) h).bind
      fun r₁ r₂ s₁ t₁ hreply h₁ => ?_
    exact (ih h₁ _).bind fun rest₁ rest₂ s₂ t₂ hrest h₂ =>
      matches_pure h₂ (hreply.items.ofCopy.append hrest)

/-- The copies of two such elements are such elements again, so each is walked to the same end. -/
theorem repetition_matches (hwalk : WalksMatched refusal walk₁ walk₂) (h : a.Reordered b)
    (hst : s.SameButMade t) :
    AnswersMatch refusal R a b s t (repetition ev walk₁ raw a) (repetition ev walk₂ raw b) := by
  unfold repetition
  rw [← h.locals]
  refine matches_lift_bind hst fun argument _ =>
    matches_evaluateIn_bind hst fun v s₁ t₁ h₁ => ?_
  split
  · exact matches_pure h₁ (.done (.becomes .nil))
  · split
    · exact matches_throw _ h₁
    · refine matches_lift_bind h₁ fun loops _ => ?_
      exact (repeatFrom_matches hwalk (h.nodes.standalone h.scopes.uri? h.isBound)
        (Element.isBound_standalone h.isBound) h₁ _ _ _ _ _ _).bind fun _ _ s₂ t₂ hitems h₂ =>
          matches_pure h₂ (.done (.becomes hitems))

/-! ### The directives of an element -/

/-- The guarded language comes to the same end as the standard one if what it permits does. -/
theorem handle_matches {Q : Reply → Reply → Prop} {d : Directive}
    (h : Call.fillsUnmarked ⟨ev, d, raw, a, s.globals⟩ = true →
      Matches refusal Q s t (d.handle ev walk₁ raw a) (d.handle ev walk₂ raw b)) :
    Matches refusal Q s t
      ((Language.refusing refusal Call.fillsUnmarked).handle ev walk₁ d.tag raw a)
      (Language.standard.handle ev walk₂ d.tag raw b) := by
  intro hne
  rw [standard_handle]
  rw [refusing_handle_run] at hne ⊢
  split at hne
  · rename_i hpermitted
    rw [if_pos hpermitted]
    exact h hpermitted hne
  · exact (hne rfl).elim

/-- A directive that waits on two elements is handled to the same end, as far as nothing marked is
filled in. What is left of the elements is in the relation that goes with what waits then. -/
def Directive.HandledAlike (refusal : Failure) (ev : Expr.Evaluator) (walk₁ walk₂ : Walk)
    (R : List (String × String) → Site → Site → Prop) (d : Directive) : Prop :=
  ∀ ⦃raw waiting a b⦄ ⦃s t : RunState⦄, R waiting a b → waiting.lookup d.tag ≠ none →
    s.SameButMade t → Call.fillsUnmarked ⟨ev, d, raw, a.without d, s.globals⟩ = true →
    AnswersMatch refusal (R (waiting.filter fun w => w.1 != d.tag)) (a.without d) (b.without d) s t
      (d.handle ev walk₁ raw (a.without d)) (d.handle ev walk₂ raw (b.without d))

/-- Where the handling of some directives has led on two elements. -/
structure HandlingMatched (R : List (String × String) → Site → Site → Prop) (ds : List Directive)
    (waiting : List (String × String)) (p q : Progress × List (String × String)) : Prop where
  progress : Progress.Matched (R p.2) p.1 q.1
  waits : Waits p.2 q.2
  handled : ∀ here, p.1 = .on here → ∀ d : Directive, d ∈ ds ∨ waiting.lookup d.tag = none →
    p.2.lookup d.tag = none

/-- Elements that are done with leave the same directives waiting. -/
theorem HandlingMatched.of_done {R : List (String × String) → Site → Site → Prop}
    {ds : List Directive} {left₁ left₂ : List (String × String)} {r₁ r₂ : Reply}
    (hreply : r₁.Matched r₂) (hwaits : Waits left₁ left₂) :
    HandlingMatched R ds waiting (.done r₁, left₁) (.done r₂, left₂) := by
  refine ⟨.done hreply, hwaits, fun here hon => ?_⟩
  cases hon

/-- Some directives are handled to the same end if each of them is. -/
theorem handleTags_matches {R : List (String × String) → Site → Site → Prop} {ds : List Directive}
    (htags : ∀ {waiting a b}, R waiting a b →
      a.element.tag.name = b.element.tag.name ∧ a.element.tag.line = b.element.tag.line)
    (hstep : ∀ d ∈ ds, d.HandledAlike refusal ev walk₁ walk₂ R)
    {waiting₁ waiting₂ : List (String × String)} (h : R waiting₁ a b)
    (hwaits : Waits waiting₁ waiting₂) (hst : s.SameButMade t) :
    Matches refusal (HandlingMatched R ds waiting₁) s t
      (handleTags (.refusing refusal Call.fillsUnmarked) ev walk₁ a waiting₁
        (ds.map Directive.tag))
      (handleTags .standard ev walk₂ b waiting₂ (ds.map Directive.tag)) := by
  induction ds generalizing a b s t waiting₁ waiting₂ with
  | nil =>
    refine matches_pure hst ⟨.on h, hwaits, fun _ _ d hd => ?_⟩
    exact hd.resolve_left List.not_mem_nil
  | cons d ds ih =>
    obtain ⟨hfirst, hothers⟩ := List.forall_mem_cons.mp hstep
    rw [List.map_cons]
    cases hlookup₁ : waiting₁.lookup d.tag with
    | none =>
      -- Neither element carries the directive, and no other brings it back. This is what `handled`
      -- asks of a directive that is passed over.
      have hlookup₂ := (hwaits.lookup d).symm.trans hlookup₁
      rw [handleTags, handleTags, hlookup₁, hlookup₂]
      refine (ih hothers h hwaits hst).mono fun hp =>
        ⟨hp.progress, hp.waits, fun here hon d' hd' => hp.handled here hon d' ?_⟩
      rcases hd' with hd' | hd'
      · exact (List.mem_cons.mp hd').elim (fun h => .inr (h ▸ hlookup₁)) .inl
      · exact .inr hd'
    | some raw =>
      have hlookup₂ := (hwaits.lookup d).symm.trans hlookup₁
      rw [handleTags_cons_of_waiting rfl _ hlookup₁, handleTags_cons_of_waiting rfl _ hlookup₂]
      have hnote : a.announcement d raw = b.announcement d raw := by
        unfold Site.announcement
        rw [(htags h).1, (htags h).2]
      rw [hnote]
      refine (matches_note _ hst).bind fun _ _ s₁ t₁ _ h₁ => ?_
      refine (handle_matches fun hpermitted =>
        hfirst h (hlookup₁ ▸ Option.some_ne_none raw) h₁ hpermitted).bind
          fun r₁ r₂ s₂ t₂ hprogress h₂ => ?_
      generalize r₁.progress (a.without d) = p₁ at hprogress ⊢
      generalize r₂.progress (b.without d) = p₂ at hprogress ⊢
      cases hprogress with
      | on hhere =>
        refine (ih hothers hhere (hwaits.without _) h₂).mono fun hp =>
          ⟨hp.progress, hp.waits, fun here hon d' hd' => hp.handled here hon d' ?_⟩
        rcases hd' with hd' | hd'
        · exact (List.mem_cons.mp hd').elim (fun h => .inr (lookup_filter_eq_none (.inl h))) .inl
        · exact .inr (lookup_filter_eq_none (.inr hd'))
      | done hreply => exact matches_pure h₂ (.of_done hreply (hwaits.without _))

/-! ### The directives before anything of an element changes -/

/-- Two elements that are reordered, of which nothing has changed but that directives were taken
off. What waits is what is still on them. -/
def Site.Whole (waiting : List (String × String)) (a b : Site) : Prop :=
  a.Reordered b ∧ waiting = a.element.tag.waiting

/-- The first three directives are handled while all of the elements is the same. -/
theorem whole_handledAlike (hwalk : WalksMatched refusal walk₁ walk₂) {d : Directive}
    (hd : d ∈ [Directive.define, .condition, .repetition]) :
    d.HandledAlike refusal ev walk₁ walk₂ Site.Whole := by
  rintro raw waiting a b s t ⟨h, rfl⟩ - hst -
  have hoff := h.without d
  have hwaits := (a.element.tag.waiting_without d.tag).symm
  cases d with
  | define =>
    exact define_matches hoff.locals
      (fun locals => ⟨⟨hoff.scopes, hoff.nodes, hoff.isBound, rfl⟩, hwaits⟩) hst
  | condition => exact condition_matches hoff.locals ⟨hoff, hwaits⟩ hst
  | repetition => exact repetition_matches hwalk hoff hst
  | content | replace | attributes | omitTag => exact absurd hd (by decide)

/-! ### The directives after them -/

/-- The other four are handled while what shows of the elements is the same. -/
theorem matched_handledAlike (hwalk : WalksMatched refusal walk₁ walk₂) {d : Directive}
    (hd : d ∈ [Directive.content, .replace, .attributes, .omitTag]) :
    d.HandledAlike refusal ev walk₁ walk₂ Site.Matched := by
  intro raw waiting a b s t h hwaits hst hpermitted
  have hoff := h.without hwaits
  cases d with
  | content => exact content_matches hoff hst hpermitted
  | replace => exact replace_matches hoff.locals hst
  | attributes => exact attributes_matches hoff hst
  | omitTag => exact omitTag_matches hwalk hoff hst
  | define | condition | repetition => exact absurd hd (by decide)

/-! ### Elements -/

/-- All directives of an element are handled to the same end. On elements that are still there none
of them waits any more. -/
theorem handleDirectives_matches (hwalk : WalksMatched refusal walk₁ walk₂) (h : a.Reordered b)
    (hst : s.SameButMade t) :
    Matches refusal (HandlingMatched Site.Matched Directive.all a.element.tag.waiting) s t
      (handleTags (.refusing refusal Call.fillsUnmarked) ev walk₁ a a.element.tag.waiting
        (Directive.all.map Directive.tag))
      (handleTags .standard ev walk₂ b b.element.tag.waiting
        (Directive.all.map Directive.tag)) := by
  have hall : Directive.all.map Directive.tag
      = [Directive.define, .condition, .repetition].map Directive.tag
        ++ [Directive.content, .replace, .attributes, .omitTag].map Directive.tag := rfl
  -- The first three work on whole elements, which are `Reordered`. From `content` on, children may
  -- have been filled in, and the weaker relation `Matched` is kept.
  rw [hall, handleTags_append rfl, handleTags_append rfl]
  refine (handleTags_matches (fun h => ⟨h.1.tags.name, h.1.tags.line⟩)
    (fun d hd => whole_handledAlike hwalk hd) ⟨h, rfl⟩ h.waits hst).bind
      fun p q s₁ t₁ hfirst h₁ => ?_
  obtain ⟨p, left⟩ := p
  obtain ⟨q, left'⟩ := q
  obtain ⟨hprogress, hwaits, hhandled⟩ := hfirst
  cases hprogress with
  | done hreply => exact matches_pure h₁ (.of_done hreply hwaits)
  | @on here₁ here₂ hhere =>
    obtain ⟨hhere, rfl⟩ := hhere
    refine (handleTags_matches (fun h => ⟨h.tags.name, h.tags.line⟩)
      (fun d hd => matched_handledAlike hwalk hd) hhere.matched hwaits h₁).mono fun hp =>
        ⟨hp.progress, hp.waits, fun here hon d _ => hp.handled here hon d ?_⟩
    by_cases hd : d ∈ [Directive.content, .replace, .attributes, .omitTag]
    · exact .inl hd
    · refine .inr (hhandled here₁ rfl d (.inl ?_))
      revert hd
      cases d <;> decide

/-- Two elements on which all directives have been handled. -/
def Site.Handled (a b : Site) : Prop :=
  ∃ waiting, a.Matched waiting b ∧ ∀ d : Directive, waiting.lookup d.tag = none

/-- The directives of the standard language are handled, the first run being refused what would
insert marks. -/
theorem handleLanguages_matches (hwalk : WalksMatched refusal walk₁ walk₂) (h : a.Reordered b)
    (hst : s.SameButMade t) :
    Matches refusal (Progress.Matched Site.Handled) s t
      (handleLanguages ev walk₁ a
        (pendingOn [.refusing refusal Call.fillsUnmarked] a.element.tag)
        [.refusing refusal Call.fillsUnmarked])
      (handleLanguages ev walk₂ b (pendingOn [.standard] b.element.tag) [.standard]) := by
  rw [handleLanguages_single rfl, handleLanguages_single rfl]
  refine (handleDirectives_matches hwalk h hst).bind fun p q s₁ t₁ hhandling h₁ => ?_
  obtain ⟨p, left⟩ := p
  obtain ⟨q, left'⟩ := q
  obtain ⟨hprogress, hwaits, hhandled⟩ := hhandling
  cases hprogress with
  | done hreply => exact matches_pure h₁ (.done hreply)
  | @on here₁ here₂ hhere =>
    -- All directives have been handled, so no more than other attributes can be left on either
    -- side.
    have hnone : ∀ d : Directive, left.lookup d.tag = none :=
      fun d => hhandled here₁ rfl d (.inl d.mem_all)
    obtain rfl : left = left' := hwaits.eq_of_none hnone
    have hsame : Progress.Matched Site.Handled (.on here₁) (.on here₂) := .on ⟨left, hhere, hnone⟩
    dsimp only
    rw [hhere.tags.name, hhere.tags.line]
    split
    · exact (matches_note _ h₁).bind fun _ _ s₂ t₂ _ h₂ => matches_pure h₂ hsame
    · exact matches_pure h₁ hsame

/-- An element is processed to the same end as its reordering. -/
theorem processWith_matches (hwalk : WalksMatched refusal walk₁ walk₂) (h : a.Reordered b)
    (hst : s.SameButMade t) :
    Matches refusal Reply.Matched s t
      (processWith [.refusing refusal Call.fillsUnmarked] ev walk₁ a)
      (processWith [.standard] ev walk₂ b) := by
  refine (handleLanguages_matches hwalk h hst).bind fun p q s₁ t₁ hprogress h₁ => ?_
  cases hprogress with
  | done hreply => exact matches_pure h₁ hreply
  | @on here₁ here₂ hhere =>
    obtain ⟨waiting, hhere, hnone⟩ := hhere
    have hchildren := hwalk.content hhere.scopes here₁.locals hhere.content h₁
    dsimp only
    rw [← hhere.locals]
    refine hchildren.bind fun _ _ s₂ t₂ hchildren h₂ => matches_pure h₂ (.stays ?_)
    show Node.element _ _ = Node.element _ _
    rw [hhere.unprefixed hnone, hchildren]

end

/-! ### Processing -/

/-- What was filled in is gone through to the same end. Nothing in it is handled. -/
theorem inserted_matches {refusal : Failure} {ev : Expr.Evaluator} {fuel : Nat}
    {ms ns : List Node} {s t : RunState} (h : InsertedAlike ms ns) (hst : s.SameButMade t)
    (scope₁ scope₂ : Scope) (locals : Entries) :
    Matches refusal UnprefixedAlike s t
      (walkNodes (processNode [.refusing refusal Call.fillsUnmarked] ev fuel) scope₁ locals ms)
      (walkNodes (standardWalk ev fuel) scope₂ locals ns) := by
  obtain ⟨hmarks, hsame⟩ := h
  have hmarks' : marksList ns = [] := by
    rw [← marksList_unprefixed, ← hsame, marksList_unprefixed, hmarks]
  have hheight : heightList ms = heightList ns := by
    rw [← heightList_unprefixed, hsame, heightList_unprefixed]
  rw [walkNodes_of_foreign (foreign_of_unmarked rfl hmarks),
    walkNodes_of_foreign (foreign_of_unmarked rfl hmarks'), hheight]
  split
  · exact matches_pure hst hsame
  · exact matches_throw _ hst

/-- Elements that are reordered are processed to the same end, whatever depth is allowed. -/
theorem processNode_matches (refusal : Failure) (ev : Expr.Evaluator) (fuel : Nat) :
    WalksMatched refusal (processNode [.refusing refusal Call.fillsUnmarked] ev fuel)
      (standardWalk ev fuel) := by
  induction fuel with
  | zero => exact ⟨fun _ hst => matches_throw _ hst, fun h hst => inserted_matches h hst⟩
  | succ fuel ih =>
    exact ⟨fun h hst => processWith_matches ih h hst, fun h hst => inserted_matches h hst⟩

/-- The root of a document that was read is at such a place. -/
theorem Site.Reordered.of_read {dialect : Dialect} {source : Source} {d : Document}
    {e₁ e₂ : Element} (hread : source.read dialect = .ok d) (hroot : d.root = e₁.toNode)
    (h : e₁.toNode.Reordered e₂.toNode) (locals : Entries) :
    Site.Reordered ⟨e₁, [], locals⟩ ⟨e₂, [], locals⟩ :=
  ⟨Scope.Coherent.alike trivial, h, hroot ▸ Source.isBound_root hread, rfl⟩

/-- The places of directives among the attributes of an element make no difference. Processing two
elements that are the same but for these places, at whatever depth, comes to the same end: either
fails with the same failure as the other, or the same is left of both, with all other attributes in
the same order. The local and global contexts are the same, and so are all notes. Only the prefixes
under which names are written can differ.

Markup that `content` fills in must have no attributes of the standard language. It is enough to
know this of the processing of one of the elements: where such markup is refused, under a failure
of one's own choice, that failure is not the outcome. -/
theorem directives_in_any_order {ev : Expr.Evaluator} {fuel : Nat} {a b : Site} {s : RunState}
    {refusal : Failure} (h : a.Reordered b)
    (hunrefused : ((processNode [.refusing refusal Call.fillsUnmarked] ev fuel a).run.run s).1
      ≠ .error refusal) :
    SameEnd Reply.Matched ((standardWalk ev fuel a).run.run s)
      ((standardWalk ev fuel b).run.run s) := by
  have hwalk := processNode_matches refusal ev fuel
  -- Both are compared with the guarded processing of the first.
  exact (hwalk.element h.left .rfl hunrefused).of_common (hwalk.element h .rfl hunrefused)
    fun h h' => h.symm.trans h'

/-- An item of a list with attributes. -/
def listItem (attributes : List Attribute) : Element where
  tag := ⟨.plain "li", attributes, [⟨some "tal", standardUri⟩], some 1⟩
  children := [.text "nothing yet"]

/-- Attributes with three directives, and one of their namespace that is none. -/
def itemAttributes : List Attribute :=
  [standardAttribute "repeat" "x xs", ⟨.plain "class", "entry", []⟩,
    standardAttribute "attributes" "title x; class nothing", standardAttribute "note" "?",
    standardAttribute "content" "x"]

/-- The same with the directives in other places. -/
def shuffledAttributes : List Attribute :=
  [standardAttribute "content" "x", ⟨.plain "class", "entry", []⟩,
    standardAttribute "note" "?", standardAttribute "attributes" "title x; class nothing",
    standardAttribute "repeat" "x xs"]

/-- A state in which `xs` is a list of two texts. -/
def withNames : RunState where
  globals := [(.str "xs", .list [.str "Ada", .str "Grace"])]
  events := []
  made := 0
  inCopy := false

/-- An item of a list, with its seven directives in one order and in another. -/
theorem directives_in_any_order_listItem :
    (standardWalk .standard 9 ⟨listItem itemAttributes, [], []⟩).Succeeds withNames ∧
      SameEnd Reply.Matched
        ((standardWalk .standard 9 ⟨listItem itemAttributes, [], []⟩).run.run withNames)
        ((standardWalk .standard 9 ⟨listItem shuffledAttributes, [], []⟩).run.run withNames) := by
  have htag : (listItem itemAttributes).tag.Reordered (listItem shuffledAttributes).tag :=
    .of_distinct rfl rfl (fun _ => rfl) (by decide +kernel) (by decide +kernel) (by decide +kernel)
  have hsite : Site.Reordered ⟨listItem itemAttributes, [], []⟩
      ⟨listItem shuffledAttributes, [], []⟩ :=
    ⟨Scope.Coherent.alike trivial, .element htag (.cons (.other rfl) .nil), by decide +kernel, rfl⟩
  have hguarded : (processNode [.refusing .nestingTooDeep Call.fillsUnmarked] .standard 9
      ⟨listItem itemAttributes, [], []⟩).Succeeds withNames := by decide +kernel
  -- The guarded run goes through, so it has not been refused anything.
  have hunrefused : ((processNode [.refusing .nestingTooDeep Call.fillsUnmarked] .standard 9
      ⟨listItem itemAttributes, [], []⟩).run.run withNames).1 ≠ .error .nestingTooDeep := by
    intro hrefused
    unfold Succeeds at hguarded
    rw [hrefused] at hguarded
    cases hguarded
  exact ⟨by decide +kernel, directives_in_any_order hsite hunrefused⟩

/-- Declarations of two prefixes for the namespace of the standard language. -/
def bothPrefixes : Scope := [⟨[⟨some "t1", standardUri⟩, ⟨some "t2", standardUri⟩], none⟩]

/-- An attribute of the standard language under a prefix. -/
def prefixedAttribute (p localName value : String) : Attribute :=
  { name := ⟨some ⟨some p, standardUri⟩, localName⟩, value }

/-- An empty element with attributes at a place where both prefixes are declared. -/
def twicePrefixed (attributes : List Attribute) : Site where
  element := ⟨⟨.plain "e", attributes, [], some 1⟩, []⟩
  scope := bothPrefixes
  locals := []

/-- A state with markup that has an attribute of the standard language. -/
def withMarkedMarkup : RunState where
  globals := [(.str "f", .str ("<z:g xmlns:z='" ++ standardUri ++ "' z:bar='1'/>")),
    (.str "x", .str "v"), (.str "xs", .list [.str "a"])]
  events := []
  made := 0
  inCopy := false

/-- A copy declares the prefixes of its attributes in their order, and markup that is filled in
takes the first. If the markup has attributes of the standard language, a note names that prefix. -/
theorem attribute_order_names_insertion :
    (twicePrefixed [prefixedAttribute "t1" "repeat" "i xs",
        prefixedAttribute "t1" "content" "structure f",
        prefixedAttribute "t2" "attributes" "k x"]).Reordered
      (twicePrefixed [prefixedAttribute "t2" "attributes" "k x",
        prefixedAttribute "t1" "repeat" "i xs",
        prefixedAttribute "t1" "content" "structure f"]) ∧
    ((standardWalk .standard 9 (twicePrefixed [prefixedAttribute "t1" "repeat" "i xs",
        prefixedAttribute "t1" "content" "structure f",
        prefixedAttribute "t2" "attributes" "k x"])).run.run withMarkedMarkup).2.events.filter
          Event.isWarning
      = [.unhandled ["bar"] standardUri "t1:g" (some 1)] ∧
    ((standardWalk .standard 9 (twicePrefixed [prefixedAttribute "t2" "attributes" "k x",
        prefixedAttribute "t1" "repeat" "i xs",
        prefixedAttribute "t1" "content" "structure f"])).run.run withMarkedMarkup).2.events.filter
          Event.isWarning
      = [.unhandled ["bar"] standardUri "t2:g" (some 1)] := by
  refine ⟨⟨⟨fun _ => rfl, ⟨by decide, trivial⟩, ⟨by decide, trivial⟩⟩, .element ?_ .nil,
    by decide +kernel, rfl⟩, by decide +kernel, by decide +kernel⟩
  exact .of_distinct rfl rfl (fun _ => rfl) (by decide +kernel) (by decide +kernel)
    (by decide +kernel)

end AttrTemplates
