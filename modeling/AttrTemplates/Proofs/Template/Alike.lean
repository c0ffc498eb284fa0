import AttrTemplates.Proofs.Template.Undirected
import AttrTemplates.Proofs.Template.Within
import AttrTemplates.Proofs.Xml.Scoped

/-!
# `AttrTemplates.Proofs.Template.Alike`: runs alongside each other

Processing the same part of a template in two documents gives the same nodes if the contexts are
the same and prefixes mean the same. How many prefixes have been made up in either document makes
no difference, as long as no markup is inserted whose own directives could read them.

* `Run.Follows` says that one step does the like of another: its result is alike, its notes are
  the same as far as they are looked at, and the contexts are the same afterwards.
* `handleDirectives_follows` is the handling of the directives on two elements that are alike but
  may have different children.
* `walkNodes_follows` is the main fact, for nodes whose names agree with the declarations around
  them.
-/

set_option autoImplicit false

namespace AttrTemplates

open Xml Run

/-! ### States and steps -/

namespace RunState

/-- Two states agree in all that a template can see of them. -/
structure Agrees (s t : RunState) : Prop where
  globals : s.globals = t.globals
  inCopy : s.inCopy = t.inCopy

/-- Every state agrees with itself. -/
theorem Agrees.rfl {s : RunState} : s.Agrees s := ⟨Eq.refl _, Eq.refl _⟩

/-- From two states others were reached that agree, and of what was noted on the way the same has
been seen. -/
structure Alongside (seen : Event → Bool) (s t s' t' : RunState) : Prop where
  agrees : s'.Agrees t'
  notes : ∃ new₁ new₂, s'.events = s.events ++ new₁ ∧ t'.events = t.events ++ new₂ ∧
    new₁.filter seen = new₂.filter seen

variable {seen : Event → Bool} {s t s' t' s'' t'' : RunState}

/-- Notes do not count for whether states agree. -/
theorem Agrees.noting (h : s.Agrees t) (es fs : List Event) : (s.noting es).Agrees (t.noting fs) :=
  ⟨h.globals, h.inCopy⟩

/-- Stretches of two runs that go on alongside each other make longer ones that do. -/
theorem Alongside.trans (h₁ : Alongside seen s t s' t') (h₂ : Alongside seen s' t' s'' t'') :
    Alongside seen s t s'' t'' := by
  obtain ⟨new₁, new₂, hs, ht, hseen⟩ := h₁.notes
  obtain ⟨new₁', new₂', hs', ht', hseen'⟩ := h₂.notes
  -- What is seen of two stretches is what is seen of each.
  refine ⟨h₂.agrees, new₁ ++ new₁', new₂ ++ new₂', ?_, ?_, ?_⟩
  · rw [hs', hs, List.append_assoc]
  · rw [ht', ht, List.append_assoc]
  · rw [List.filter_append, List.filter_append, hseen, hseen']

/-- States that agree go on alongside each other if what is noted is the same as far as it is seen.
-/
theorem Agrees.alongside_noting (h : s.Agrees t) {es fs : List Event}
    (hseen : es.filter seen = fs.filter seen) :
    Alongside seen s t (s.noting es) (t.noting fs) :=
  ⟨h.noting es fs, es, fs, Eq.refl _, Eq.refl _, hseen⟩

/-- Nothing is noted where nothing is done. -/
theorem Agrees.alongside (h : s.Agrees t) : Alongside seen s t s t := by
  have hnothing : Alongside seen s t (s.noting []) (t.noting []) :=
    h.alongside_noting (Eq.refl _)
  rwa [noting_nil, noting_nil] at hnothing

/-- Notes that are not seen make no difference. -/
theorem Agrees.alongside_unseen (h : s.Agrees t) {es : List Event}
    (hunseen : es.filter seen = []) :
    Alongside seen s t (s.noting es) t ∧ Alongside seen s t s (t.noting es) := by
  have hleft : Alongside seen s t (s.noting es) (t.noting []) := h.alongside_noting hunseen
  have hright : Alongside seen s t (s.noting []) (t.noting es) := h.alongside_noting hunseen.symm
  rw [noting_nil] at hleft hright
  exact ⟨hleft, hright⟩

/-- Prefixes that are made up make no difference. -/
theorem Agrees.alongside_made (h : s.Agrees t) (hs : s.SameButMade s') (ht : t.SameButMade t') :
    Alongside seen s t s' t' := by
  refine ⟨⟨?_, ?_⟩, [], [], ?_, ?_, Eq.refl _⟩
  · rw [hs.calm.globals, ht.calm.globals, h.globals]
  · rw [hs.calm.inCopy, ht.calm.inCopy, h.inCopy]
  · rw [hs, List.append_nil]
  · rw [ht, List.append_nil]

end RunState

namespace Run

variable {α β γ δ : Type} {seen : Event → Bool} {s t : RunState}

/-- Whatever one step does from one state, another step does the like from another state. -/
def Follows (seen : Event → Bool) (Q : α → β → Prop) (s t : RunState) (r₁ : Run α) (r₂ : Run β) :
    Prop :=
  ∀ ⦃a s'⦄, r₁.Gives s a s' → ∃ b t', r₂.Gives t b t' ∧ Q a b ∧
    RunState.Alongside seen s t s' t'

/-- Results that are alike are given by both. -/
theorem follows_pure {Q : α → β → Prop} {a : α} {b : β} (hst : s.Agrees t) (h : Q a b) :
    Follows seen Q s t (pure a) (pure b) := by
  intro a' s' hr
  obtain ⟨rfl, rfl⟩ := gives_pure_iff.mp hr
  exact ⟨b, t, gives_pure_iff.mpr ⟨rfl, rfl⟩, h, hst.alongside⟩

/-- A computation outside the run has one outcome for both. -/
theorem follows_lift (x : Except Failure α) (hst : s.Agrees t) :
    Follows seen (fun a b => x = .ok a ∧ a = b) s t (liftM x) (liftM x) := by
  intro a s' hr
  obtain ⟨hx, rfl⟩ := gives_lift_iff.mp hr
  exact ⟨a, t, gives_lift_iff.mpr ⟨hx, rfl⟩, ⟨hx, rfl⟩, hst.alongside⟩

/-- A sequence of two steps follows another if each of its steps follows the other's. -/
theorem Follows.bind {Q : α → β → Prop} {Q' : γ → δ → Prop} {r₁ : Run α} {r₂ : Run β}
    {f : α → Run γ} {g : β → Run δ} (h : Follows seen Q s t r₁ r₂)
    (hf : ∀ a b s' t', Q a b → s'.Agrees t' → Follows seen Q' s' t' (f a) (g b)) :
    Follows seen Q' s t (r₁ >>= f) (r₂ >>= g) := by
  intro c s'' hr
  obtain ⟨a, s', ha, hc⟩ := gives_bind_iff.mp hr
  obtain ⟨b, t', hb, hQ, hbeside⟩ := h ha
  obtain ⟨d, t'', hd, hQ', hbeside'⟩ := hf a b s' t' hQ hbeside.agrees hc
  exact ⟨d, t'', gives_bind_iff.mpr ⟨b, t', hb, hd⟩, hQ', hbeside.trans hbeside'⟩

/-- Less may be asked of the two results. -/
theorem Follows.mono {Q Q' : α → β → Prop} {r₁ : Run α} {r₂ : Run β}
    (h : Follows seen Q s t r₁ r₂) (hQ : ∀ {a b}, Q a b → Q' a b) :
    Follows seen Q' s t r₁ r₂ := by
  intro a s' hr
  obtain ⟨b, t', hb, hab, hbeside⟩ := h hr
  exact ⟨b, t', hb, hQ hab, hbeside⟩

/-- The value of an expression depends on the contexts, and the states agree in those. -/
theorem follows_evaluateIn (ev : Expr.Evaluator) (locals : Entries) (expression : String)
    (hst : s.Agrees t) :
    Follows seen Eq s t (evaluateIn ev locals expression) (evaluateIn ev locals expression) := by
  intro v s' hr
  obtain ⟨notes, hv, rfl⟩ := evaluateIn_gives_iff.mp hr
  rw [hst.globals] at hv
  exact ⟨v, _, evaluateIn_gives_iff.mpr ⟨notes, hv, rfl⟩, rfl, hst.alongside_noting rfl⟩

end Run

/-! ### Elements alike -/

/-- Two tags that differ in the prefixes of attributes at most. -/
structure Xml.Tag.Alike (t u : Tag) : Prop where
  name : t.name = u.name
  declarations : t.declarations = u.declarations
  unprefixed : t.unprefixed = u.unprefixed

namespace Xml.Tag.Alike

/-- Every tag is like itself. -/
theorem rfl {t : Tag} : t.Alike t := ⟨Eq.refl _, Eq.refl _, Eq.refl _⟩

variable {t u : Tag} (h : t.Alike u)
include h

/-- Tags that are alike come from the same line. -/
theorem line : t.line = u.line :=
  show t.unprefixed.line = u.unprefixed.line by rw [h.unprefixed]

/-- The same directives wait on both, since what an attribute is called does not depend on prefixes.
-/
theorem waiting : t.waiting = u.waiting := by
  rw [← t.waiting_unprefixed, h.unprefixed, u.waiting_unprefixed]

/-- An attribute may be taken off both. -/
theorem withoutAttribute (key : String) : (t.withoutAttribute key).Alike (u.withoutAttribute key) := by
  refine ⟨h.name, h.declarations, ?_⟩
  rw [Tag.unprefixed_withoutAttribute, Tag.unprefixed_withoutAttribute, h.unprefixed]

/-- An attribute may be set on both, by names that mean the same. -/
theorem withAttribute {name₁ name₂ : Name} (hname : name₁.unprefixed = name₂.unprefixed)
    (value : String) : (t.withAttribute name₁ value).Alike (u.withAttribute name₂ value) := by
  refine ⟨?_, ?_, ?_⟩
  · rw [Tag.name_withAttribute, Tag.name_withAttribute, h.name]
  · rw [Tag.declarations_withAttribute, Tag.declarations_withAttribute, h.declarations]
  · rw [Tag.unprefixed_withAttribute, Tag.unprefixed_withAttribute, h.unprefixed, hname]

end Xml.Tag.Alike

/-- Two sites whose elements are alike, but for their children, which are related by `K`. The
scopes in the elements are given. -/
structure Site.Alike (inner₁ inner₂ : Scope) (K : List Node → List Node → Prop) (a b : Site) :
    Prop where
  inner₁ : a.innerScope = inner₁
  inner₂ : b.innerScope = inner₂
  tags : a.element.tag.Alike b.element.tag
  children : K a.element.children b.element.children
  locals : a.locals = b.locals

/-- Handling stands alike on two elements: both are still there and alike, or the same items
stand for them. -/
inductive Progress.Alike (inner₁ inner₂ : Scope) (K : List Node → List Node → Prop) :
    Progress → Progress → Prop
  | on {a b : Site} : a.Alike inner₁ inner₂ K b → Alike inner₁ inner₂ K (.on a) (.on b)
  | done {left₁ left₂ : Element} {items : List Item} :
    (∀ item ∈ items, item.isItself = false) →
      Alike inner₁ inner₂ K (.done (.becomes left₁ items)) (.done (.becomes left₂ items))

/-- Two replies that leave the same but for prefixes and for content, which is related by `R`. -/
inductive Reply.Alike (R : List Node → List Node → Prop) : Reply → Reply → Prop
  | stays {e₁ e₂ : Element} {locals : Entries} :
    e₁.tag.Alike e₂.tag → R e₁.children e₂.children →
      Alike R (.stays e₁ locals) (.stays e₂ locals)
  | becomes {left₁ left₂ : Element} {items : List Item} :
    (∀ item ∈ items, item.isItself = false) →
      Alike R (.becomes left₁ items) (.becomes left₂ items)
  | opens {left₁ left₂ : Element} :
    R left₁.children left₂.children → Alike R (.opens left₁) (.opens left₂)

/-- A call that fills the element with nothing that has marks. -/
def Call.fillsUnmarked (c : Call) : Bool :=
  match c.directive with
  | .content => c.insertsUnmarked
  | _ => true

/-- Nodes that can have been inserted at two places: they are the same and have no marks. -/
def InsertedAlike (ms ns : List Node) : Prop :=
  marksList ms = [] ∧ unprefixedList ms = unprefixedList ns

/-! ### Directives on elements alike -/

section

variable {seen : Event → Bool} {K : List Node → List Node → Prop} {inner₁ inner₂ : Scope}
  {a b : Site} {s t : RunState} {ev : Expr.Evaluator} {raw : String}

/-- A directive is announced by name and value, so both announce the same. -/
theorem Site.Alike.announcement (h : a.Alike inner₁ inner₂ K b) (d : Directive) :
    a.announcement d raw = b.announcement d raw := by
  unfold Site.announcement
  rw [h.tags.name, h.tags.line]

/-- A directive may be taken off both. -/
theorem Site.Alike.without (h : a.Alike inner₁ inner₂ K b) (d : Directive) :
    (a.without d).Alike inner₁ inner₂ K (b.without d) :=
  ⟨h.inner₁, h.inner₂, h.tags.withoutAttribute _, h.children, h.locals⟩

/-- By induction on the arguments: each definition is made of the same value in both contexts. -/
theorem makeDefinitions_follows (locals : Entries) (arguments : List String)
    (hst : s.Agrees t) :
    Follows seen Eq s t (makeDefinitions ev locals arguments)
      (makeDefinitions ev locals arguments) := by
  induction arguments generalizing locals s t with
  | nil => exact follows_pure hst rfl
  | cons argument arguments ih =>
    refine (follows_lift _ hst).bind fun d _ s₁ t₁ hd h₁ => ?_
    obtain ⟨-, rfl⟩ := hd
    refine (follows_evaluateIn _ _ _ h₁).bind fun v _ s₂ t₂ hv h₂ => ?_
    subst hv
    cases d.isGlobal with
    | true =>
      refine Follows.bind (Q := fun _ _ => True) ?_ fun _ _ s₃ t₃ _ h₃ => ih locals h₃
      intro u s₃ hbind
      obtain rfl := gives_modify_iff.mp hbind
      -- A global definition is made in both states, which notes nothing.
      refine ⟨(), t₂.binding d.name v, gives_modify_iff.mpr rfl, trivial, ⟨?_, h₂.inCopy⟩, [], [],
        (List.append_nil _).symm, (List.append_nil _).symm, rfl⟩
      show s₂.globals.bind d.name v = t₂.globals.bind d.name v
      rw [h₂.globals]
    | false => exact ih _ h₂

/-- The definitions of a directive are made in both contexts alike. -/
theorem define_follows (h : a.Alike inner₁ inner₂ K b) (hst : s.Agrees t) :
    Follows seen (fun r₁ r₂ => Progress.Alike inner₁ inner₂ K (r₁.progress a) (r₂.progress b)) s t
      (define ev raw a) (define ev raw b) := by
  unfold define
  rw [← h.locals]
  refine (makeDefinitions_follows _ _ hst).bind fun locals _ s₁ t₁ hlocals h₁ => ?_
  subst hlocals
  exact follows_pure h₁ (.on ⟨h.inner₁, h.inner₂, h.tags, h.children, rfl⟩)

/-- A condition removes both elements or neither. -/
theorem condition_follows (h : a.Alike inner₁ inner₂ K b) (hst : s.Agrees t) :
    Follows seen (fun r₁ r₂ => Progress.Alike inner₁ inner₂ K (r₁.progress a) (r₂.progress b)) s t
      (condition ev raw a) (condition ev raw b) := by
  unfold condition
  rw [← h.locals]
  refine (follows_evaluateIn _ _ _ hst).bind fun v _ s₁ t₁ hv h₁ => ?_
  subst hv
  cases v.truth with
  | true => exact follows_pure h₁ (.on ⟨h.inner₁, h.inner₂, h.tags, h.children, rfl⟩)
  | false => exact follows_pure h₁ (.done fun item hitem => nomatch hitem)

/-- A replacement is the same value for both. -/
theorem replace_follows (h : a.Alike inner₁ inner₂ K b) (hst : s.Agrees t) :
    Follows seen (fun r₁ r₂ => Progress.Alike inner₁ inner₂ K (r₁.progress a) (r₂.progress b)) s t
      (replace ev raw a) (replace ev raw b) := by
  intro reply s' hr
  obtain ⟨items, notes, hitems, rfl, rfl⟩ := replace_gives_iff.mp hr
  have hitself := inserted_not_itself hitems
  rw [h.locals, hst.globals] at hitems
  exact ⟨_, _, replace_gives_iff.mpr ⟨items, notes, hitems, rfl, rfl⟩, .done hitself,
    hst.alongside_noting rfl⟩

/-- What comes into two elements alike is the same, and has no marks if the items have none. -/
theorem content_follows (h : a.Alike inner₁ inner₂ K b) (hst : s.Agrees t)
    (hcall : Call.fillsUnmarked ⟨ev, .content, raw, a, s.globals⟩ = true)
    (hK : ∀ ms ns, InsertedAlike ms ns → K ms ns) :
    Follows seen (fun r₁ r₂ => Progress.Alike inner₁ inner₂ K (r₁.progress a) (r₂.progress b)) s t
      (content ev raw a) (content ev raw b) := by
  intro reply s' hr
  obtain ⟨items, notes, s₁, children₁, hitems, hempty₁, hchildren₁, rfl⟩ :=
    content_gives_iff.mp hr
  have hitself := inserted_not_itself hitems
  have hinserts : Call.insertsUnmarked ⟨ev, .content, raw, a, s.globals⟩ = true := hcall
  have hunmarked := unmarked_of_insertsUnmarked hinserts (.inl rfl) hitems
  -- Whether the other step succeeds is up to the texts alone, and they are the same.
  have hs₁ := emptyOut_gives hempty₁
  obtain ⟨hnodes₁, hallowed, hs'⟩ := settleAll_gives hchildren₁
  obtain ⟨t₁, hempty₂⟩ := emptyOut_succeeds (t.noting notes) b.element.children
  obtain ⟨children₂, t', hchildren₂⟩ := settleAll_succeeds b.innerScope b.element t₁ hallowed
  have ht₁ := emptyOut_gives hempty₂
  obtain ⟨hnodes₂, -, ht'⟩ := settleAll_gives hchildren₂
  have hnoted : RunState.Alongside seen s t (s.noting notes) (t.noting notes) :=
    hst.alongside_noting rfl
  have hbeside : RunState.Alongside seen s t s' t' :=
    hnoted.trans (hnoted.agrees.alongside_made (hs₁.trans hs') (ht₁.trans ht'))
  -- The children can differ in the prefixes that were made up for them.
  have hsame : unprefixedList children₁ = unprefixedList children₂ := by
    rw [hnodes₁, hnodes₂, hs₁.calm.inCopy, ht₁.calm.inCopy, RunState.noting_inCopy,
      RunState.noting_inCopy, hst.inCopy]
    exact flatMap_standing_of_not_itself hitself _ _ _
  have hmarks : marksList children₁ = [] := by
    rw [marksList_of_settleAll hchildren₁, flatMap_marks_resolve hitself, hunmarked]
  rw [h.locals, hst.globals] at hitems
  exact ⟨_, t', content_gives_iff.mpr
    ⟨items, notes, t₁, children₂, hitems, hempty₂, hchildren₂, rfl⟩,
    .on ⟨h.inner₁, h.inner₂, h.tags, hK _ _ ⟨hmarks, hsame⟩, h.locals⟩, hbeside⟩

/-! ### Attributes of elements alike -/

/-- Scopes that are alike give a prefix the same meaning. -/
theorem Xml.Scope.Alike.meaning? (h : inner₁.Alike inner₂) (p : String) :
    inner₁.meaning? p = inner₂.meaning? p := by
  unfold Scope.meaning?
  rw [h.uri?]

/-- So the name of an attribute means the same in both. -/
theorem Xml.Scope.Alike.attributeTarget (h : inner₁.Alike inner₂) (name : String) :
    attributeTarget inner₁ name = attributeTarget inner₂ name := by
  unfold AttrTemplates.attributeTarget
  simp only [h.uri?]

/-- An attribute whose prefix has a meaning needs no new one. -/
theorem Xml.Scope.Coherent.bindingFor?_of_meaning {scope : Scope} (h : scope.Coherent)
    {p uri : String} (huri : scope.meaning? p = some uri) :
    ∃ b, scope.bindingFor? uri true = some b := by
  unfold Scope.meaning? at huri
  split at huri
  · cases huri
    exact ⟨Binding.xml, rfl⟩
  · rename_i hp
    exact h.bindingFor?_isSome (fun hxml => hp (beq_iff_eq.mpr hxml)) huri

/-- Where the scope is coherent, assignments to attributes declare nothing on the element. -/
theorem frame_of_assignAttributes {site : Site} {arguments : List String} {e : Element}
    {s' : RunState} (hcoherent : site.innerScope.Coherent)
    (h : (assignAttributes ev site arguments).Gives s e s') :
    e.tag.frame = site.element.tag.frame := by
  induction arguments generalizing site s with
  | nil =>
    obtain ⟨rfl, -⟩ := assignAttributes_nil_gives_iff.mp h
    rfl
  | cons argument arguments ih =>
    obtain ⟨a, target, v, s₁, here, s₂, -, htarget, -, hassign, hrest⟩ :=
      assignAttributes_cons_gives_iff.mp h
    have hhere : here.tag.frame = site.element.tag.frame := by
      split at hassign
      · obtain ⟨-, rfl⟩ := removeAttribute_eq_ok_iff.mp hassign.1
        rfl
      · obtain ⟨text, -, hset⟩ := hassign
        obtain ⟨-, -, rfl, -⟩ := setAttribute_gives_iff.mp hset
        dsimp only
        unfold taggedWith
        -- A target with a namespace comes from a prefix that means it, and where the scope is
        -- coherent there is a binding for what a prefix means. So none is declared.
        rcases attributeTarget_eq_ok_iff.mp htarget with ⟨-, heq⟩ | ⟨p, uri, -, huri, heq⟩
        · rw [heq]
          exact Tag.frame_withAttribute _ _ _
        · obtain ⟨b, hb⟩ := hcoherent.bindingFor?_of_meaning huri
          simp only [heq, hb]
          exact Tag.frame_withAttribute _ _ _
    have hscope : Site.innerScope { site with element := here } = site.innerScope :=
      congrArg (· :: site.scope) hhere
    rw [ih (hscope ▸ hcoherent) hrest, hhere]

/-- An attribute that is set comes under a name that is alike, and no declaration is needed. -/
theorem setAttribute_follows (hinner : inner₁.Alike inner₂) (h : a.Alike inner₁ inner₂ K b)
    (hst : s.Agrees t) {name : String} {target : Option String × String}
    (htarget : attributeTarget inner₁ name = .ok target) (value : String) :
    Follows seen (fun e₁ e₂ => Site.Alike inner₁ inner₂ K { a with element := e₁ }
        { b with element := e₂ }) s t
      (setAttribute a target value) (setAttribute b target value) := by
  intro e₁ s' hr
  obtain ⟨hname, hcheck, rfl, rfl⟩ := setAttribute_gives_iff.mp hr
  have hgives₂ : (setAttribute b target value).Gives t
      { b.element with tag := (taggedWith b target value t.made).1 }
      { t with made := (taggedWith b target value t.made).2 } :=
    setAttribute_gives_iff.mpr ⟨hname, hcheck, rfl, rfl⟩
  -- On both elements one attribute is set, under names of the same meaning.
  obtain ⟨name₁, name₂, hname, htag₁, htag₂⟩ : ∃ name₁ name₂ : Name,
      name₁.unprefixed = name₂.unprefixed ∧
      taggedWith a target value s.made = (a.element.tag.withAttribute name₁ value, s.made) ∧
      taggedWith b target value t.made = (b.element.tag.withAttribute name₂ value, t.made) := by
    unfold taggedWith
    rw [h.inner₁, h.inner₂]
    rcases attributeTarget_eq_ok_iff.mp htarget with ⟨-, htarget⟩ | ⟨p, uri, -, huri, htarget⟩
    · rw [htarget]
      exact ⟨_, _, rfl, rfl, rfl⟩
    · -- In a coherent scope a prefix with a meaning gives a binding, so none has to be made.
      obtain ⟨b₁, hb₁⟩ := hinner.coherent₁.bindingFor?_of_meaning huri
      rw [hinner.meaning?] at huri
      obtain ⟨b₂, hb₂⟩ := hinner.coherent₂.bindingFor?_of_meaning huri
      rw [htarget]
      simp only [hb₁, hb₂]
      refine ⟨⟨some b₁, target.2⟩, ⟨some b₂, target.2⟩, Name.unprefixed_eq ?_ rfl, rfl, rfl⟩
      show some b₁.uri = some b₂.uri
      rw [Scope.bindingFor?_uri hb₁, Scope.bindingFor?_uri hb₂]
  refine ⟨_, _, hgives₂, ⟨?_, ?_, ?_, h.children, h.locals⟩, hst.alongside_made ?_ ?_⟩
  · rw [htag₁, ← h.inner₁]
    exact congrArg (· :: a.scope) (a.element.tag.frame_withAttribute name₁ value)
  · rw [htag₂, ← h.inner₂]
    exact congrArg (· :: b.scope) (b.element.tag.frame_withAttribute name₂ value)
  · rw [htag₁, htag₂]
    exact h.tags.withAttribute hname value
  · rw [htag₁]
    exact .rfl
  · rw [htag₂]
    exact .rfl

/-- An attribute is removed from both, or its name is turned down for both. -/
theorem removeAttribute_follows (h : a.Alike inner₁ inner₂ K b) (hst : s.Agrees t)
    (target : Option String × String) :
    Follows seen (fun e₁ e₂ => Site.Alike inner₁ inner₂ K { a with element := e₁ }
        { b with element := e₂ }) s t
      (liftM (removeAttribute a.element target)) (liftM (removeAttribute b.element target)) := by
  intro e₁ s' hr
  obtain ⟨hremove, rfl⟩ := gives_lift_iff.mp hr
  obtain ⟨hname, rfl⟩ := removeAttribute_eq_ok_iff.mp hremove
  exact ⟨_, t, gives_lift_iff.mpr ⟨removeAttribute_eq_ok_iff.mpr ⟨hname, rfl⟩, rfl⟩,
    ⟨h.inner₁, h.inner₂, h.tags.withoutAttribute _, h.children, h.locals⟩, hst.alongside⟩

/-- By induction on the arguments: each one sets or removes the same attribute on both elements. -/
theorem assignAttributes_follows (hinner : inner₁.Alike inner₂)
    (h : a.Alike inner₁ inner₂ K b) (hst : s.Agrees t) (arguments : List String) :
    Follows seen (fun e₁ e₂ => Site.Alike inner₁ inner₂ K { a with element := e₁ }
        { b with element := e₂ }) s t
      (assignAttributes ev a arguments) (assignAttributes ev b arguments) := by
  induction arguments generalizing a b s t with
  | nil => exact follows_pure hst h
  | cons argument arguments ih =>
    obtain ⟨e₁, scope₁, locals⟩ := a
    obtain ⟨e₂, scope₂, locals'⟩ := b
    obtain rfl : locals = locals' := h.locals
    unfold assignAttributes
    -- The inner scopes of the two elements are not the same, but read prefixes alike. So the
    -- targets are equal, and from here on it goes step by step.
    rw [h.inner₁, h.inner₂]
    refine (follows_lift _ hst).bind fun assignment _ s₁ t₁ hassignment h₁ => ?_
    obtain ⟨-, rfl⟩ := hassignment
    rw [← hinner.attributeTarget]
    refine (follows_lift _ h₁).bind fun target _ s₂ t₂ htarget h₂ => ?_
    obtain ⟨htarget, rfl⟩ := htarget
    refine (follows_evaluateIn _ _ _ h₂).bind fun v _ s₃ t₃ hv h₃ => ?_
    subst hv
    cases v.isUndefined with
    | true =>
      exact (removeAttribute_follows h h₃ target).bind fun e₁ e₂ s₄ t₄ he h₄ => ih he h₄
    | false =>
      refine (follows_lift _ h₃).bind fun text _ s₄ t₄ htext h₄ => ?_
      obtain ⟨-, rfl⟩ := htext
      exact (setAttribute_follows hinner h h₄ htarget text).bind fun e₁ e₂ s₅ t₅ he h₅ =>
        ih he h₅

/-- The attributes of a directive are set on both alike. -/
theorem attributes_follows (hinner : inner₁.Alike inner₂) (h : a.Alike inner₁ inner₂ K b)
    (hst : s.Agrees t) :
    Follows seen (fun r₁ r₂ => Progress.Alike inner₁ inner₂ K (r₁.progress a) (r₂.progress b)) s t
      (attributes ev raw a) (attributes ev raw b) := by
  unfold attributes
  refine (assignAttributes_follows hinner h hst _).bind fun e₁ e₂ s₁ t₁ he h₁ => ?_
  exact follows_pure h₁ (.on he)

/-! ### Repetitions and all directives -/

variable {walk₁ walk₂ : Walk}

/-- In a document of its own a step does the same as in another such document. -/
theorem inNewCopy_follows {α : Type} {r₁ r₂ : Run α} (h : r₁.Within r₂) (hst : s.Agrees t) :
    Follows seen Eq s t (inNewCopy r₁) (inNewCopy r₂) := by
  intro x s' hr
  obtain ⟨s₁, hcopy, rfl⟩ := inNewCopy_gives_iff.mp hr
  -- In fresh copies the numbers of prefixes are the same too, and only the notes differ.
  have hfresh : t.inFreshCopy = s.inFreshCopy.withNotes t.inFreshCopy.events := by
    unfold RunState.inFreshCopy RunState.withNotes
    rw [hst.globals]
  obtain ⟨new, hnew, hcopy'⟩ := h.elsewhere hcopy hfresh
  exact ⟨x, _, inNewCopy_gives_iff.mpr ⟨_, hcopy', rfl⟩, rfl, ⟨rfl, hst.inCopy⟩, new, new, hnew,
    rfl, rfl⟩

/-- By induction on the items: the copy is the same, so the second walk has the same result from it
as the first, whatever has been noted before. -/
theorem repeatFrom_follows (hwalk : ∀ site, (walk₁ site).Within (walk₂ site))
    (hst : s.Agrees t) (copy : Element) (locals loops : Entries) (name : String)
    (length index : Nat) (items : List Value) :
    Follows seen (fun r₁ r₂ => r₁ = r₂ ∧ ∀ item ∈ r₁, item.isItself = false) s t
      (repeatFrom walk₁ copy locals loops name length index items)
      (repeatFrom walk₂ copy locals loops name length index items) := by
  induction items generalizing index s t with
  | nil => exact follows_pure hst ⟨rfl, fun item hitem => nomatch hitem⟩
  | cons item items ih =>
    refine (inNewCopy_follows (hwalk _) hst).bind fun reply _ s₁ t₁ hreply h₁ => ?_
    subst hreply
    refine (ih h₁ _).bind fun rest _ s₂ t₂ hrest h₂ => ?_
    obtain ⟨rfl, hitself⟩ := hrest
    refine follows_pure h₂ ⟨rfl, List.forall_mem_append.mpr ⟨?_, hitself⟩⟩
    intro item hitem
    obtain ⟨item', hitem', rfl⟩ := List.mem_map.mp hitem
    exact Item.ofCopy_not_itself (reply.items_not_itself item' hitem')

/-- A loop over the same element has the same copies, and none of its results is the element itself.
-/
theorem repetition_follows (hwalk : ∀ site, (walk₁ site).Within (walk₂ site))
    (h : a.Alike inner₁ inner₂ K b) (hsame : a.element = b.element) (hst : s.Agrees t) :
    Follows seen (fun r₁ r₂ => Progress.Alike inner₁ inner₂ K (r₁.progress a) (r₂.progress b)) s t
      (repetition ev walk₁ raw a) (repetition ev walk₂ raw b) := by
  unfold repetition
  rw [← h.locals, ← hsame]
  refine (follows_lift _ hst).bind fun argument _ s₁ t₁ hargument h₁ => ?_
  obtain ⟨-, rfl⟩ := hargument
  refine (follows_evaluateIn _ _ _ h₁).bind fun v _ s₂ t₂ hv h₂ => ?_
  subst hv
  split
  · exact follows_pure h₂ (.done fun item hitem => nomatch hitem)
  · split
    · -- A value without items fails in both.
      intro reply s' hr
      exact (gives_throw_iff.mp hr).elim
    · refine (follows_lift _ h₂).bind fun loops _ s₃ t₃ hloops h₃ => ?_
      obtain ⟨-, rfl⟩ := hloops
      -- The element is the same, so both loops copy the same.
      refine (repeatFrom_follows hwalk h₃ _ _ _ _ _ _ _).bind fun results _ s₄ t₄ hresults h₄ => ?_
      obtain ⟨rfl, hitself⟩ := hresults
      exact follows_pure h₄ (.done hitself)

/-- The directives before `omit-tag` do the like on elements alike. Of an element that is to be
repeated nothing but the scope around it may be different. -/
theorem Directive.handle_follows (hwalk : ∀ site, (walk₁ site).Within (walk₂ site))
    (hinner : inner₁.Alike inner₂) (hK : ∀ ms ns, InsertedAlike ms ns → K ms ns)
    (h : a.Alike inner₁ inner₂ K b) (hst : s.Agrees t) {d : Directive} (hd : d ≠ .omitTag)
    (hsame : d = .repetition → a.element = b.element)
    (hcall : Call.fillsUnmarked ⟨ev, d, raw, a, s.globals⟩ = true) :
    Follows seen (fun r₁ r₂ => Progress.Alike inner₁ inner₂ K (r₁.progress a) (r₂.progress b)) s t
      (d.handle ev walk₁ raw a) (d.handle ev walk₂ raw b) := by
  cases d with
  | define => exact define_follows h hst
  | condition => exact condition_follows h hst
  | repetition => exact repetition_follows hwalk h (hsame rfl) hst
  | content => exact content_follows h hst hcall hK
  | replace => exact replace_follows h hst
  | attributes => exact attributes_follows hinner h hst
  | omitTag => exact absurd rfl hd

/-- What a call fills an element with does not depend on what the element is. -/
theorem Site.Alike.fillsUnmarked (h : a.Alike inner₁ inner₂ K b) (hst : s.Agrees t)
    (d : Directive) :
    Call.fillsUnmarked ⟨ev, d, raw, a, s.globals⟩
      = Call.fillsUnmarked ⟨ev, d, raw, b, t.globals⟩ := by
  unfold Call.fillsUnmarked Call.insertsUnmarked
  dsimp only
  rw [h.locals, hst.globals]

/-- A directive that is handled before `repeat` leaves the element as it is. -/
theorem Directive.element_before_repetition {walk : Walk} {site : Site} {e : Element}
    {locals : Entries} {d : Directive} (hd : d = .define ∨ d = .condition)
    (hr : (d.handle ev walk raw site).Gives s (.stays e locals) t) : e = site.element := by
  rcases reply_before_repetition hd hr with ⟨locals, hreply⟩ | hreply
  · cases hreply
    rfl
  · cases hreply

/-- Two elements that are the same are so after such a directive, if they are still there. -/
theorem Directive.element_eq_before_repetition {d : Directive} {e₁ e₂ : Element}
    {locals₁ locals₂ : Entries} {s' t' : RunState} (hd : d = .define ∨ d = .condition)
    (hsame : a.element = b.element)
    (h₁ : (d.handle ev walk₁ raw (a.without d)).Gives s (.stays e₁ locals₁) s')
    (h₂ : (d.handle ev walk₂ raw (b.without d)).Gives t (.stays e₂ locals₂) t') : e₁ = e₂ := by
  rw [element_before_repetition hd h₁, element_before_repetition hd h₂]
  unfold Site.without
  rw [hsame]

/-- The directives that are handled before `omit-tag`. -/
def Directive.beforeOmission : List Directive :=
  [define, condition, repetition, content, replace, attributes]

/-- The handling of directives goes alongside on elements alike. If one of them is to be repeated,
the elements must be the same until then. -/
theorem handleDirectives_follows (hwalk : ∀ site, (walk₁ site).Within (walk₂ site))
    (hinner : inner₁.Alike inner₂) (hK : ∀ ms ns, InsertedAlike ms ns → K ms ns)
    {waiting : List (String × String)} {ds : List Directive} (homit : Directive.omitTag ∉ ds)
    (horder : ds.Pairwise fun d d' => d' = .repetition → d = .define ∨ d = .condition)
    (h : a.Alike inner₁ inner₂ K b) (hst : s.Agrees t)
    (hsame : waiting.lookup Directive.repetition.tag ≠ none → .repetition ∈ ds →
      a.element = b.element) :
    Follows seen (fun p q => Progress.Alike inner₁ inner₂ K p.1 q.1 ∧ p.2 = q.2) s t
      (handleDirectives Call.fillsUnmarked ev walk₁ a waiting ds)
      (handleDirectives Call.fillsUnmarked ev walk₂ b waiting ds) := by
  induction ds generalizing a b s t waiting with
  | nil => exact follows_pure hst ⟨.on h, rfl⟩
  | cons d ds ih =>
    obtain ⟨hfirst, horder⟩ := List.pairwise_cons.mp horder
    have hd : d ≠ .omitTag := fun hd => homit (hd ▸ List.mem_cons_self)
    have homit : Directive.omitTag ∉ ds := fun hmem => homit (List.mem_cons_of_mem d hmem)
    intro r s' hr
    obtain ⟨hnone, hr⟩ | ⟨raw, reply₁, s₁, hraw, hcall, hhandle₁, hr⟩ :=
      handleDirectives_cons_gives_iff.mp hr
    · obtain ⟨r₂, t', hr₂, halike⟩ := ih homit horder h hst
        (fun hwaits hmem => hsame hwaits (List.mem_cons_of_mem d hmem)) hr
      exact ⟨r₂, t', handleDirectives_cons_gives_iff.mpr (.inl ⟨hnone, hr₂⟩), halike⟩
    · -- The directive is taken off both elements, announced for both and handled on both.
      have hwithout := h.without d
      have hnoted : RunState.Alongside seen s t (s.noting [a.announcement d raw])
          (t.noting [b.announcement d raw]) :=
        hst.alongside_noting (by rw [h.announcement])
      have hsame₁ : d = .repetition → (a.without d).element = (b.without d).element := by
        rintro rfl
        have helement : a.element = b.element :=
          hsame (by rw [hraw]; exact Option.some_ne_none raw) List.mem_cons_self
        unfold Site.without
        rw [helement]
      obtain ⟨reply₂, t₁, hhandle₂, halike, hbeside⟩ :=
        d.handle_follows hwalk hinner hK hwithout hnoted.agrees hd hsame₁ hcall hhandle₁
      have hcall₂ : Call.fillsUnmarked ⟨ev, d, raw, b.without d, t.globals⟩ = true := by
        rw [← hwithout.fillsUnmarked hst]
        exact hcall
      cases reply₁ with
      | stays e₁ locals₁ =>
        cases reply₂ with
        | becomes left₂ items₂ => cases halike
        | opens left₂ => cases halike
        | stays e₂ locals₂ =>
          obtain ⟨hsite⟩ := halike
          -- Before a repetition no directive that stays touches the element.
          have hsame₂ : (waiting.filter fun w => w.1 != d.tag).lookup Directive.repetition.tag
              ≠ none → .repetition ∈ ds → e₁ = e₂ := by
            intro hwaits hmem
            have hd' := hfirst .repetition hmem rfl
            have hwaits' : waiting.lookup Directive.repetition.tag ≠ none :=
              fun hnone => hwaits (lookup_filter_eq_none (.inr hnone))
            have helement := hsame hwaits' (List.mem_cons_of_mem d hmem)
            exact Directive.element_eq_before_repetition hd' helement hhandle₁ hhandle₂
          obtain ⟨r₂, t', hr₂, hrest, hbeside'⟩ :=
            ih homit horder hsite hbeside.agrees hsame₂ hr
          exact ⟨r₂, t', handleDirectives_cons_gives_iff.mpr
            (.inr ⟨raw, _, t₁, hraw, hcall₂, hhandle₂, hr₂⟩), hrest,
            (hnoted.trans hbeside).trans hbeside'⟩
      | becomes left₁ items₁ =>
        cases reply₂ with
        | stays e₂ locals₂ => cases halike
        | opens left₂ => cases halike
        | becomes left₂ items₂ =>
          obtain ⟨rfl, rfl⟩ := hr
          exact ⟨_, t₁, handleDirectives_cons_gives_iff.mpr
            (.inr ⟨raw, _, t₁, hraw, hcall₂, hhandle₂, rfl, rfl⟩), ⟨halike, rfl⟩,
            hnoted.trans hbeside⟩
      | opens left₁ => cases halike

end

end AttrTemplates
