import AttrTemplates.Proofs.Template.Alike

/-!
# `AttrTemplates.Proofs.Template.Alongside`: parts of templates in two documents

What becomes of an element is settled in two steps. First the directives before `omit-tag` are
handled, and after them the element is still there or not. If it is, its children are processed,
whether the tag is omitted or not, and that is the only time.

* `permittedWalk_gives_iff` takes the processing of an element apart in this way.
* `permittedWalk_follows` processes two elements alike whose children are related, given that
  their children can be processed alongside each other.
* `walkNodes_follows` is for the same nodes in two scopes that are alike. It is an induction on the
  depth of nesting.
-/

set_option autoImplicit false

namespace AttrTemplates

open Xml Run

/-! ### The end of an element -/

/-- The note of what is left over on an element. -/
def Site.leftover (site : Site) (left : List (String × String)) : List Event :=
  if left.isEmpty then []
  else [.unhandled (left.map (·.1)) standardUri site.element.tag.name.written
    site.element.tag.line]

/-- What is left over on an element is noted. -/
theorem RunState.leaving_eq_noting (s : RunState) (site : Site)
    (left : List (String × String)) : s.leaving site left = s.noting (site.leftover left) := by
  unfold leaving Site.leftover
  split
  · exact s.noting_nil.symm
  · rfl

/-- Whether the tag of an element is omitted on which the other directives have been handled, and
what is noted until its children are processed. -/
def Site.ending (ev : Expr.Evaluator) (here : Site) (left : List (String × String))
    (globals : Entries) : Option (Bool × List Event) :=
  match left.lookup Directive.omitTag.tag with
  | none => some (false, here.leftover left)
  | some raw =>
    (omitted ev here.locals globals raw).map fun p =>
      (p.1, here.announcement .omitTag raw :: p.2 ++
        if p.1 then [] else
          (here.without .omitTag).leftover (left.filter fun w => w.1 != Directive.omitTag.tag))

/-- An element on which all directives have been handled. -/
def Site.ended (here : Site) (left : List (String × String)) : Site :=
  if (left.lookup Directive.omitTag.tag).isNone then here else here.without .omitTag

/-- The reply of an element with processed children. -/
def Site.answer (there : Site) (omitted : Bool) (children : List Node) : Reply :=
  if omitted then .opens { there.element with children }
  else .stays { there.element with children } there.locals

section

variable {ev : Expr.Evaluator} {fuel : Nat} {site : Site} {s s' : RunState} {reply : Reply}

/-- The last directive: an omitted tag opens the element with its children processed, and a tag that
is kept leaves it. -/
theorem handleDirectives_omitTag_gives_iff {walk : Walk} {here : Site}
    {left : List (String × String)} {r : Progress × List (String × String)} :
    (handleDirectives Call.fillsUnmarked ev walk here left [.omitTag]).Gives s r s' ↔
      match left.lookup Directive.omitTag.tag with
      | none => r = (.on here, left) ∧ s' = s
      | some raw => ∃ out notes, omitted ev here.locals s.globals raw = some (out, notes) ∧
        if out then ∃ children,
          (walkNodes walk here.innerScope here.locals here.element.children).Gives
            (s.noting (here.announcement .omitTag raw :: notes)) children s' ∧
          r = (.done (.opens { (here.without .omitTag).element with children }),
            left.filter fun w => w.1 != Directive.omitTag.tag)
        else r = (.on (here.without .omitTag), left.filter fun w => w.1 != Directive.omitTag.tag) ∧
          s' = s.noting (here.announcement .omitTag raw :: notes) := by
  rw [handleDirectives_cons_gives_iff]
  cases left.lookup Directive.omitTag.tag with
  | none =>
    simp only [true_and, reduceCtorEq, false_and, exists_false, or_false,
      handleDirectives_nil_gives_iff]
  | some raw =>
    simp only [reduceCtorEq, false_and, false_or, Option.some.injEq]
    constructor
    · rintro ⟨_, reply, s₁, rfl, -, hhandle, h⟩
      -- Nothing comes behind the last directive, so its reply is the end of the list of directives.
      obtain ⟨out, notes, hout, hhandle⟩ := omitTag_gives_iff.mp hhandle
      refine ⟨out, notes, hout, ?_⟩
      cases out with
      | true =>
        obtain ⟨children, hchildren, rfl⟩ := hhandle
        obtain ⟨rfl, rfl⟩ := h
        rw [RunState.noting_noting] at hchildren
        exact ⟨children, hchildren, rfl⟩
      | false =>
        obtain ⟨rfl, rfl⟩ := hhandle
        rw [RunState.noting_noting] at h
        exact handleDirectives_nil_gives_iff.mp h
    · rintro ⟨out, notes, hout, h⟩
      cases out with
      | true =>
        obtain ⟨children, hchildren, rfl⟩ := h
        refine ⟨raw, _, s', rfl, rfl, omitTag_gives_iff.mpr ⟨true, notes, hout, children, ?_, rfl⟩,
          rfl, rfl⟩
        rw [RunState.noting_noting]
        exact hchildren
      | false =>
        refine ⟨raw, _, _, rfl, rfl, omitTag_gives_iff.mpr ⟨false, notes, hout, rfl, rfl⟩,
          handleDirectives_nil_gives_iff.mpr ?_⟩
        rw [RunState.noting_noting]
        exact h

/-- An element that is still there after the other directives, and its `omit-tag`. -/
theorem omission_gives_iff {walk : Walk} {here : Site} {left : List (String × String)} :
    (∃ progress left' s₁,
      (handleDirectives Call.fillsUnmarked ev walk here left [.omitTag]).Gives s
        (progress, left') s₁ ∧
      match progress with
      | .done r => reply = r ∧ s' = s₁
      | .on there => ∃ children,
        (walkNodes walk there.innerScope there.locals there.element.children).Gives
          (s₁.leaving there left') children s' ∧
        reply = .stays { there.element with children } there.locals) ↔
      ∃ out notes children, here.ending ev left s.globals = some (out, notes) ∧
        (walkNodes walk here.innerScope here.locals here.element.children).Gives
          (s.noting notes) children s' ∧
        reply = (here.ended left).answer out children := by
  unfold Site.ending Site.ended
  simp only [handleDirectives_omitTag_gives_iff, RunState.leaving_eq_noting]
  cases left.lookup Directive.omitTag.tag with
  | none =>
    constructor
    · rintro ⟨progress, left', s₁, ⟨hprogress, rfl⟩, hrest⟩
      cases hprogress
      obtain ⟨children, hchildren, rfl⟩ := hrest
      exact ⟨false, _, children, rfl, hchildren, rfl⟩
    · rintro ⟨out, notes, children, hending, hchildren, rfl⟩
      cases hending
      exact ⟨_, _, s, ⟨rfl, rfl⟩, children, hchildren, rfl⟩
  | some raw =>
    constructor
    · rintro ⟨progress, left', s₁, ⟨out, notes, hout, h⟩, hrest⟩
      simp only [hout, Option.map_some, Option.isNone_some, Bool.false_eq_true, if_false]
      -- Either way the children are processed once, by the directive or by the walker.
      cases out with
      | true =>
        obtain ⟨children, hchildren, hprogress⟩ := h
        cases hprogress
        obtain ⟨rfl, rfl⟩ := hrest
        refine ⟨true, _, children, rfl, ?_, rfl⟩
        rw [if_pos rfl, List.append_nil]
        exact hchildren
      | false =>
        obtain ⟨hprogress, rfl⟩ := h
        cases hprogress
        obtain ⟨children, hchildren, rfl⟩ := hrest
        rw [RunState.noting_noting] at hchildren
        exact ⟨false, _, children, rfl, hchildren, rfl⟩
    · rintro ⟨out, notes, children, hending, hchildren, rfl⟩
      obtain ⟨⟨out', found⟩, hout, hfound⟩ := Option.map_eq_some_iff.mp hending
      cases hfound
      cases out' with
      | true =>
        rw [if_pos rfl, List.append_nil] at hchildren
        exact ⟨_, _, s', ⟨true, found, hout, children, hchildren, rfl⟩, rfl, rfl⟩
      | false =>
        refine ⟨_, _, _, ⟨false, found, hout, rfl, rfl⟩, children, ?_, rfl⟩
        rw [RunState.noting_noting]
        exact hchildren

/-- Processing an element: the directives before `omit-tag` are handled, and if it is still there
its children are processed, in the contexts that these directives leave. -/
theorem permittedWalk_gives_iff :
    (permittedWalk Call.fillsUnmarked ev (fuel + 1) site).Gives s reply s' ↔
      ∃ progress left s₁,
        (handleDirectives Call.fillsUnmarked ev (permittedWalk Call.fillsUnmarked ev fuel) site
          site.element.tag.waiting Directive.beforeOmission).Gives s (progress, left) s₁ ∧
        match progress with
        | .done r => reply = r ∧ s' = s₁
        | .on here => ∃ out notes children,
          here.ending ev left s₁.globals = some (out, notes) ∧
          (walkNodes (permittedWalk Call.fillsUnmarked ev fuel) here.innerScope here.locals
            here.element.children).Gives (s₁.noting notes) children s' ∧
          reply = (here.ended left).answer out children := by
  have hall : Directive.all = Directive.beforeOmission ++ [.omitTag] := rfl
  rw [permittedWalk_succ_gives_iff, hall]
  constructor
  · rintro ⟨progress, left, s₁, h, hrest⟩
    -- What the directives before it have left is all that `omit-tag` and the children depend on.
    obtain ⟨progress', left', s₂, hearly, h⟩ := handleDirectives_append_gives_iff.mp h
    refine ⟨progress', left', s₂, hearly, ?_⟩
    cases progress' with
    | done r =>
      obtain ⟨hprogress, rfl⟩ := h
      cases hprogress
      exact hrest
    | on here => exact omission_gives_iff.mp ⟨progress, left, s₁, h, hrest⟩
  · rintro ⟨progress, left, s₁, hearly, h⟩
    cases progress with
    | done r =>
      exact ⟨_, _, s₁, handleDirectives_append_gives_iff.mpr ⟨_, left, s₁, hearly, rfl, rfl⟩, h⟩
    | on here =>
      obtain ⟨progress', left', s₂, homission, hrest⟩ := omission_gives_iff.mpr h
      exact ⟨progress', left', s₂,
        handleDirectives_append_gives_iff.mpr ⟨_, left, s₁, hearly, homission⟩, hrest⟩

end

/-! ### Elements alike -/

/-- Nodes that are the same but for prefixes. -/
def UnprefixedAlike (ms ns : List Node) : Prop := unprefixedList ms = unprefixedList ns

section

variable {seen : Event → Bool} {K R : List Node → List Node → Prop} {inner₁ inner₂ : Scope}
  {a b : Site} {s t : RunState} {ev : Expr.Evaluator}

/-- The same is left over on both elements. -/
theorem Site.Alike.leftover (h : a.Alike inner₁ inner₂ K b) (left : List (String × String)) :
    a.leftover left = b.leftover left := by
  unfold Site.leftover
  rw [h.tags.name, h.tags.line]

/-- Elements alike end alike. -/
theorem Site.Alike.ending (h : a.Alike inner₁ inner₂ K b) (left : List (String × String))
    (globals : Entries) : a.ending ev left globals = b.ending ev left globals := by
  unfold Site.ending
  simp only [h.leftover, h.locals, h.announcement, (h.without .omitTag).leftover]

/-- Both elements answer alike if their children are alike. -/
theorem Site.Alike.answer (h : a.Alike inner₁ inner₂ K b) (left : List (String × String))
    (omitted : Bool) {ms ns : List Node} (hR : R ms ns) :
    Reply.Alike R ((a.ended left).answer omitted ms) ((b.ended left).answer omitted ns) := by
  have hended : (a.ended left).Alike inner₁ inner₂ K (b.ended left) := by
    unfold Site.ended
    split
    · exact h
    · exact h.without .omitTag
  unfold Site.answer
  cases omitted with
  | true => exact .opens hR
  | false =>
    rw [← hended.locals]
    exact .stays hended.tags hR

/-- Elements alike are processed alongside each other if their children are, in whichever contexts
they come to be processed. -/
theorem permittedWalk_follows {fuel₁ fuel₂ : Nat} (hfuel : fuel₁ ≤ fuel₂)
    (hinner : inner₁.Alike inner₂) (hK : ∀ ms ns, InsertedAlike ms ns → K ms ns)
    (h : a.Alike inner₁ inner₂ K b) (hst : s.Agrees t)
    (hsame : a.element.tag.waiting.lookup Directive.repetition.tag ≠ none →
      a.element = b.element)
    (hwalk : ∀ {here₁ here₂ : Site} {left s₁ t₁}, here₁.Alike inner₁ inner₂ K here₂ →
      s₁.Agrees t₁ →
      (handleDirectives Call.fillsUnmarked ev (permittedWalk Call.fillsUnmarked ev fuel₁) a
        a.element.tag.waiting Directive.beforeOmission).Gives s (.on here₁, left) s₁ →
      (handleDirectives Call.fillsUnmarked ev (permittedWalk Call.fillsUnmarked ev fuel₂) b
        b.element.tag.waiting Directive.beforeOmission).Gives t (.on here₂, left) t₁ →
      ∀ notes, Follows seen R (s₁.noting notes) (t₁.noting notes)
        (walkNodes (permittedWalk Call.fillsUnmarked ev fuel₁) inner₁ here₁.locals
          here₁.element.children)
        (walkNodes (permittedWalk Call.fillsUnmarked ev fuel₂) inner₂ here₁.locals
          here₂.element.children)) :
    Follows seen (Reply.Alike R) s t (permittedWalk Call.fillsUnmarked ev (fuel₁ + 1) a)
      (permittedWalk Call.fillsUnmarked ev (fuel₂ + 1) b) := by
  intro reply s' hr
  obtain ⟨progress, left, s₁, hdirectives₁, hrest⟩ := permittedWalk_gives_iff.mp hr
  -- Only definitions and conditions are handled before a repetition.
  have horder : Directive.beforeOmission.Pairwise fun d d' =>
      d' = .repetition → d = .define ∨ d = .condition := by decide
  obtain ⟨⟨progress₂, left₂⟩, t₁, hdirectives₂, ⟨halike, rfl⟩, hbeside⟩ :=
    handleDirectives_follows (permittedWalk_within (fun _ hc => hc) hfuel) hinner hK (by decide)
      horder h hst (fun hwaits _ => hsame hwaits) hdirectives₁
  rw [h.tags.waiting] at hdirectives₂
  cases halike with
  | done hitself =>
    obtain ⟨rfl, rfl⟩ := hrest
    exact ⟨_, t₁, permittedWalk_gives_iff.mpr ⟨_, left, t₁, hdirectives₂, rfl, rfl⟩,
      .becomes hitself, hbeside⟩
  | @on here₁ here₂ hsite =>
    -- Both elements are still there, and both tags are omitted or neither is.
    obtain ⟨out, notes, children₁, hending, hchildren₁, rfl⟩ := hrest
    rw [hsite.inner₁] at hchildren₁
    obtain ⟨children₂, t', hchildren₂, hR, hbeside'⟩ :=
      hwalk hsite hbeside.agrees hdirectives₁ hdirectives₂ notes hchildren₁
    rw [hsite.ending, hbeside.agrees.globals] at hending
    rw [hsite.locals, ← hsite.inner₂] at hchildren₂
    exact ⟨_, t', permittedWalk_gives_iff.mpr
      ⟨_, left, t₁, hdirectives₂, out, notes, children₂, hending, hchildren₂, rfl⟩,
      hsite.answer left out hR,
      (hbeside.trans (hbeside.agrees.alongside_noting rfl)).trans hbeside'⟩

/-- The second reply may be placed if the first one may. -/
theorem Reply.Alike.allowed {reply₁ reply₂ : Reply}
    (h : Reply.Alike UnprefixedAlike reply₁ reply₂) (hallowed : reply₁.Allowed) :
    reply₂.Allowed := by
  cases h with
  | stays => trivial
  | becomes => exact hallowed
  | @opens left₁ left₂ hR =>
    have hleading : leadingText left₂.children = leadingText left₁.children := by
      rw [← leadingText_unprefixedList, ← hR, leadingText_unprefixedList]
    intro text htext
    rw [hleading] at htext
    exact hallowed text htext

/-- The same stands in the places of both. -/
theorem Reply.Alike.standing {reply₁ reply₂ : Reply}
    (h : Reply.Alike UnprefixedAlike reply₁ reply₂) (inCopy : Bool) :
    reply₁.standing inCopy = reply₂.standing inCopy := by
  cases h with
  | @stays e₁ e₂ locals htags hR =>
    have hchildren : unprefixedList e₁.children = unprefixedList e₂.children := hR
    show [Node.element e₁.tag.unprefixed (unprefixedList e₁.children)]
      = [Node.element e₂.tag.unprefixed (unprefixedList e₂.children)]
    rw [htags.unprefixed, hchildren]
  | becomes hitself => exact flatMap_standing_of_not_itself hitself _ _ _
  | opens hR => exact congrArg spread hR

/-- Replies alike come to their places alike. -/
theorem Reply.Alike.place_follows {reply₁ reply₂ : Reply}
    (h : Reply.Alike UnprefixedAlike reply₁ reply₂) (hst : s.Agrees t) (scope₁ scope₂ : Scope) :
    Follows seen UnprefixedAlike s t (reply₁.place scope₁) (reply₂.place scope₂) := by
  intro nodes₁ s' hr
  obtain ⟨hnodes₁, hallowed₁, hs'⟩ := Reply.place_gives hr
  obtain ⟨nodes₂, t', hplace₂⟩ := Reply.place_succeeds scope₂ t (h.allowed hallowed₁)
  obtain ⟨hnodes₂, -, ht'⟩ := Reply.place_gives hplace₂
  refine ⟨nodes₂, t', hplace₂, ?_, hst.alongside_made hs' ht'⟩
  calc unprefixedList nodes₁
      = reply₁.standing s.inCopy := hnodes₁
    _ = reply₂.standing t.inCopy := by rw [h.standing, hst.inCopy]
    _ = unprefixedList nodes₂ := hnodes₂.symm

/-- Nodes are processed alongside each other if the elements among them are. -/
private theorem walkNodes_follows_of_elements {walk₁ walk₂ : Walk} {scope₁ scope₂ : Scope}
    {locals : Entries}
    (helement : ∀ {tag : Tag} {children : List Node} {s t : RunState},
      (Node.element tag children).isScoped scope₁ = true → s.Agrees t →
      Follows seen (Reply.Alike UnprefixedAlike) s t (walk₁ ⟨⟨tag, children⟩, scope₁, locals⟩)
        (walk₂ ⟨⟨tag, children⟩, scope₂, locals⟩))
    {ns : List Node} (hscoped : areScoped scope₁ ns = true) (hst : s.Agrees t) :
    Follows seen UnprefixedAlike s t (walkNodes walk₁ scope₁ locals ns)
      (walkNodes walk₂ scope₂ locals ns) := by
  induction ns generalizing s t with
  | nil => exact follows_pure hst rfl
  | cons n ns ih =>
    obtain ⟨hn, hns⟩ := Bool.and_eq_true_iff.mp hscoped
    cases n with
    | element tag children =>
      -- Element, place and rest follow each other, as in the recursion of the walker.
      refine (helement hn hst).bind fun reply₁ reply₂ s₁ t₁ hreply h₁ => ?_
      refine (hreply.place_follows h₁ _ _).bind fun here₁ here₂ s₂ t₂ hhere h₂ => ?_
      refine (ih hns h₂).bind fun rest₁ rest₂ s₃ t₃ hrest h₃ => follows_pure h₃ ?_
      unfold UnprefixedAlike at *
      rw [unprefixedList_append, unprefixedList_append, hhere, hrest]
    | comment | instruction | reference | text =>
      refine (ih hns hst).bind fun rest₁ rest₂ s₁ t₁ hrest h₁ => follows_pure h₁ ?_
      unfold UnprefixedAlike at *
      rw [unprefixedList, unprefixedList, hrest]

/-- Nodes without marks are left as they are, wherever they stand. -/
theorem walkNodes_follows_of_inserted {fuel₁ fuel₂ : Nat} (hfuel : fuel₁ ≤ fuel₂)
    {scope₁ scope₂ : Scope} {locals : Entries} {ms ns : List Node} (h : InsertedAlike ms ns)
    (hst : s.Agrees t) :
    Follows seen UnprefixedAlike s t
      (walkNodes (permittedWalk Call.fillsUnmarked ev fuel₁) scope₁ locals ms)
      (walkNodes (permittedWalk Call.fillsUnmarked ev fuel₂) scope₂ locals ns) := by
  obtain ⟨hms, hsame⟩ := h
  have hns : marksList ns = [] := by
    rw [← marksList_unprefixed, ← hsame, marksList_unprefixed, hms]
  have hheight : heightList ms = heightList ns := by
    rw [← heightList_unprefixed, hsame, heightList_unprefixed]
  intro out s' hr
  obtain ⟨hms', rfl, rfl⟩ := (walkNodes_of_unmarked_iff hms).mp hr
  exact ⟨ns, t, (walkNodes_of_unmarked_iff hns).mpr ⟨by omega, rfl, rfl⟩, hsame, hst.alongside⟩

/-- An element whose names agree with the declarations around it is processed alongside itself in
another scope that is alike. -/
theorem permittedWalk_follows_of_scoped {fuel₁ fuel₂ : Nat} (hfuel : fuel₁ ≤ fuel₂)
    {scope₁ scope₂ : Scope} (hscopes : scope₁.Alike scope₂) {locals : Entries} {tag : Tag}
    {children : List Node} (hscoped : (Node.element tag children).isScoped scope₁ = true)
    (hst : s.Agrees t) :
    Follows seen (Reply.Alike UnprefixedAlike) s t
      (permittedWalk Call.fillsUnmarked ev fuel₁ ⟨⟨tag, children⟩, scope₁, locals⟩)
      (permittedWalk Call.fillsUnmarked ev fuel₂ ⟨⟨tag, children⟩, scope₂, locals⟩) := by
  -- By induction on the nesting that is allowed, for all scopes that are alike.
  induction fuel₁ generalizing fuel₂ scope₁ scope₂ locals tag children s t with
  | zero =>
    intro reply s' hr
    exact (gives_throw_iff.mp hr).elim
  | succ fuel₁ ih =>
    obtain ⟨fuel₂, rfl⟩ : ∃ n, fuel₂ = n + 1 := ⟨fuel₂ - 1, by omega⟩
    have hfuel : fuel₁ ≤ fuel₂ := Nat.le_of_succ_le_succ hfuel
    obtain ⟨htag, hchildren⟩ := Bool.and_eq_true_iff.mp hscoped
    have hinner := hscopes.cons htag
    -- The children stay those of the template until `content` puts others in their place.
    refine permittedWalk_follows
      (K := fun ms ns => (ms = ns ∧ areScoped (tag.frame :: scope₁) ms = true) ∨
        InsertedAlike ms ns) hfuel hinner
      (fun ms ns h => .inr h) ⟨rfl, rfl, .rfl, .inl ⟨rfl, hchildren⟩, rfl⟩ hst (fun _ => rfl) ?_
    intro here₁ here₂ left s₁ t₁ hsite h₁ _ _ notes
    have hnoted : (s₁.noting notes).Agrees (t₁.noting notes) := h₁.noting notes notes
    rcases hsite.children with ⟨hsame, hscoped⟩ | hinserted
    · rw [← hsame]
      exact walkNodes_follows_of_elements (fun hn hst => ih hfuel hinner hn hst) hscoped hnoted
    · exact walkNodes_follows_of_inserted hfuel hinserted hnoted

/-- The same nodes are processed alongside each other in two scopes that are alike, from states
that agree, and with more nesting allowed for one of them. -/
theorem walkNodes_follows (seen : Event → Bool) {fuel₁ fuel₂ : Nat} (hfuel : fuel₁ ≤ fuel₂)
    {scope₁ scope₂ : Scope} (hscopes : scope₁.Alike scope₂) (locals : Entries) {ns : List Node}
    (hscoped : areScoped scope₁ ns = true) (hst : s.Agrees t) :
    Follows seen UnprefixedAlike s t
      (walkNodes (permittedWalk Call.fillsUnmarked ev fuel₁) scope₁ locals ns)
      (walkNodes (permittedWalk Call.fillsUnmarked ev fuel₂) scope₂ locals ns) :=
  walkNodes_follows_of_elements
    (fun hn hst => permittedWalk_follows_of_scoped hfuel hscopes hn hst) hscoped hst

end

end AttrTemplates
