import AttrTemplates.Proofs.Template.Alongside
import AttrTemplates.Proofs.Template.Fronts
import AttrTemplates.Proofs.Template.Kept
import AttrTemplates.Proofs.Template.Siblings

/-!
# `AttrTemplates.Proofs.Template.Omitted`: an element whose tag is omitted

An element with nothing but an `omit-tag` that holds is as good as its content.
`omitted_tag_transparent` says so for an element among the children of another: the other has the
same content as if the content of the first had stood in it from the beginning, and the contexts
and warnings are the same.

Content is compared by `runs`, in which adjacent texts are one, and without prefixes. Prefixes can
be different, since one may be made up for the element when it is taken out of its place. Markup
that is inserted with directives of its own can tell the difference, and
`omitted_tag_makes_prefix` is such a case.
-/

set_option autoImplicit false

namespace AttrTemplates

open Xml Run

/-- Nodes that are the same content but for prefixes: adjacent texts count as one. -/
def RunsAlike (ms ns : List Node) : Prop :=
  runs (unprefixedList ms) = runs (unprefixedList ns)

/-- Nodes that are the same but for prefixes have runs that are. -/
theorem UnprefixedAlike.runsAlike {ms ns : List Node} (h : UnprefixedAlike ms ns) :
    RunsAlike ms ns :=
  congrArg runs h

/-- Runs that are alike may be put together. -/
theorem RunsAlike.append {ms ns ms' ns' : List Node} (h : RunsAlike ms ns)
    (h' : RunsAlike ms' ns') : RunsAlike (ms ++ ms') (ns ++ ns') := by
  unfold RunsAlike at *
  rw [unprefixedList_append, unprefixedList_append, runs_append, runs_append, h, h']

section

variable {ev : Expr.Evaluator} {fuel fuel₁ fuel₂ : Nat} {scope inner₁ inner₂ : Scope}
  {locals : Entries} {s s' t : RunState} {raw : String} {xtag : Tag} {content xs ys : List Node}

/-- An element that only omits its tag has its content processed, and opens. -/
theorem permittedWalk_of_omitted {reply : Reply} {notes : List Event}
    (hwaiting : xtag.waiting = [(Directive.omitTag.tag, raw)])
    (homitted : omitted ev locals s.globals raw = some (true, notes)) :
    (permittedWalk Call.fillsUnmarked ev (fuel + 1) ⟨⟨xtag, content⟩, scope, locals⟩).Gives s
        reply s' ↔
      ∃ children,
        (walkNodes (permittedWalk Call.fillsUnmarked ev fuel) (xtag.frame :: scope) locals
          content).Gives
          (s.noting (Site.announcement ⟨⟨xtag, content⟩, scope, locals⟩ .omitTag raw :: notes))
          children s' ∧
        reply = .opens ⟨(Site.without ⟨⟨xtag, content⟩, scope, locals⟩ .omitTag).element.tag,
          children⟩ := by
  -- The omission is the only directive.
  have hsingle : ∀ d : Directive, xtag.waiting.lookup d.tag
      = if d = .omitTag then some raw else none := by
    intro d
    rw [hwaiting]
    cases d <;> rfl
  rw [permittedWalk_succ_gives_iff]
  constructor
  · rintro ⟨progress, left, s₁, hdirectives, hrest⟩
    obtain ⟨-, reply', hhandle, hprogress⟩ :=
      (handleDirectives_single_gives_iff hsingle (Directive.mem_all _)).mp hdirectives
    obtain ⟨out, notes', hout, hhandle⟩ := omitTag_gives_iff.mp hhandle
    obtain ⟨rfl, rfl⟩ : out = true ∧ notes' = notes := by
      have heq := hout.symm.trans homitted
      cases heq
      exact ⟨rfl, rfl⟩
    obtain ⟨children, hchildren, rfl⟩ := hhandle
    cases hprogress
    obtain ⟨rfl, rfl⟩ := hrest
    rw [RunState.noting_noting] at hchildren
    exact ⟨children, hchildren, rfl⟩
  · rintro ⟨children, hchildren, rfl⟩
    refine ⟨_, _, s', (handleDirectives_single_gives_iff hsingle (Directive.mem_all _)).mpr
      ⟨rfl, _, omitTag_gives_iff.mpr ⟨true, notes, homitted, children, ?_, rfl⟩, rfl⟩, rfl, rfl⟩
    rw [RunState.noting_noting]
    exact hchildren

/-- What the omission of a tag notes is no warning. -/
theorem filter_isWarning_of_omitted {globals : Entries} {notes : List Event} (site : Site)
    (homitted : omitted ev locals globals raw = some (true, notes)) :
    (site.announcement .omitTag raw :: notes).filter Event.isWarning = [] := by
  rw [List.filter_eq_nil_iff]
  intro e he
  rcases List.mem_cons.mp he with rfl | he
  · exact Bool.false_ne_true
  · have hlookup := isLookup_of_omitted homitted e he
    cases e with
    | undefinedPath => exact Bool.false_ne_true
    | directive | unhandled | recorded => cases hlookup

/-- Nodes with an omitted tag among them can be followed with its content in its place. -/
theorem omitted_follows (hfuel : fuel₁ ≤ fuel₂) (hinner : inner₁.Alike inner₂)
    (hdeclared : xtag.declarations = []) (hwaiting : xtag.waiting = [(Directive.omitTag.tag, raw)])
    (hscoped : areScoped inner₁ (xs ++ .element xtag content :: ys) = true) (hst : s.Agrees t)
    (homitted : ∀ {before s₁},
      (walkNodes (permittedWalk Call.fillsUnmarked ev fuel₁) inner₁ locals xs).Gives s before s₁ →
        ∃ notes, omitted ev locals s₁.globals raw = some (true, notes)) :
    Follows Event.isWarning RunsAlike s t
      (walkNodes (permittedWalk Call.fillsUnmarked ev fuel₁) inner₁ locals
        (xs ++ .element xtag content :: ys))
      (walkNodes (permittedWalk Call.fillsUnmarked ev fuel₂) inner₂ locals
        (xs ++ (content ++ ys))) := by
  obtain ⟨hxs, hxtag, hcontent, hys⟩ := areScoped_around_iff.mp hscoped
  intro out s' hr
  -- The nodes in front are followed first. Then it is known that the tag is omitted.
  obtain ⟨before, s₁, behind, hbefore, hbehind, rfl⟩ := walkNodes_append_gives_iff.mp hr
  obtain ⟨before', t₁, hbefore', halike₁, hbeside₁⟩ :=
    walkNodes_follows Event.isWarning hfuel hinner locals hxs hst hbefore
  obtain ⟨reply, s₃, here, s₄, after, hreply, hhere, hafter, rfl⟩ :=
    walkNodes_element_gives_iff.mp hbehind
  obtain ⟨notes, homit⟩ := homitted hbefore
  obtain ⟨fuel, rfl⟩ : ∃ n, fuel₁ = n + 1 := by
    cases fuel₁ with
    | zero => exact (gives_throw_iff.mp hreply).elim
    | succ n => exact ⟨n, rfl⟩
  obtain ⟨children, hchildren, rfl⟩ := (permittedWalk_of_omitted hwaiting homit).mp hreply
  -- The notes of the omission are no warnings, and the states still agree.
  have hnoted : RunState.Alongside Event.isWarning s₁ t₁
      (s₁.noting (Site.announcement ⟨⟨xtag, content⟩, inner₁, locals⟩ .omitTag raw :: notes)) t₁ :=
    (hbeside₁.agrees.alongside_unseen (filter_isWarning_of_omitted _ homit)).1
  -- The frame of the element declares nothing, so its content means the same without it.
  obtain ⟨children', t₃, hchildren', halike₃, hbeside₃⟩ :=
    walkNodes_follows Event.isWarning (Nat.le_of_succ_le hfuel)
      (hinner.cons_left hxtag hdeclared) locals hcontent hnoted.agrees hchildren
  obtain ⟨hnodes, -, hs₄⟩ := Reply.place_gives hhere
  -- Putting the content into its place makes up prefixes at most.
  have hplaced : RunState.Alongside Event.isWarning s₃ t₃ s₄ t₃ :=
    hbeside₃.agrees.alongside_made hs₄ .rfl
  obtain ⟨after', t', hafter', halike₄, hbeside₄⟩ :=
    walkNodes_follows Event.isWarning hfuel hinner locals hys hplaced.agrees hafter
  have hhere : RunsAlike here children' := by
    unfold RunsAlike
    rw [hnodes, ← halike₃]
    exact runs_spread _
  exact ⟨before' ++ (children' ++ after'), t',
    walkNodes_append_gives_iff.mpr ⟨before', t₁, _, hbefore',
      walkNodes_append_gives_iff.mpr ⟨children', t₃, after', hchildren', hafter', rfl⟩, rfl⟩,
    halike₁.runsAlike.append (hhere.append halike₄.runsAlike),
    (((hbeside₁.trans hnoted).trans hbeside₃).trans hplaced).trans hbeside₄⟩

/-- The other way round, one level more of nesting is needed, and the texts in the content have to
be legal: the text at its front is checked when the tag goes away. -/
theorem omitted_followed (hinner : inner₁.Alike inner₂)
    (hdeclared : xtag.declarations = []) (hwaiting : xtag.waiting = [(Directive.omitTag.tag, raw)])
    (hscoped : areScoped inner₁ (xs ++ .element xtag content :: ys) = true) (hst : t.Agrees s)
    (hlegal : ∀ text, .text text ∈ content → checkText text = .ok ())
    (homitted : ∀ {before s₁},
      (walkNodes (permittedWalk Call.fillsUnmarked ev (fuel + 1)) inner₁ locals xs).Gives s
        before s₁ → ∃ notes, omitted ev locals s₁.globals raw = some (true, notes)) :
    Follows Event.isWarning RunsAlike t s
      (walkNodes (permittedWalk Call.fillsUnmarked ev fuel) inner₂ locals
        (xs ++ (content ++ ys)))
      (walkNodes (permittedWalk Call.fillsUnmarked ev (fuel + 1)) inner₁ locals
        (xs ++ .element xtag content :: ys)) := by
  obtain ⟨hxs, hxtag, hcontent, hys⟩ := areScoped_around_iff.mp hscoped
  have hopened := hinner.cons_left hxtag hdeclared
  have hxs₂ := areScoped_of_alike hinner xs hxs
  have hys₂ := areScoped_of_alike hinner ys hys
  have hcontent₂ := areScoped_of_alike hopened content hcontent
  have hmore : fuel ≤ fuel + 1 := Nat.le_succ fuel
  intro out t' hr
  obtain ⟨before, t₁, behind, hbefore, hbehind, rfl⟩ := walkNodes_append_gives_iff.mp hr
  obtain ⟨children, t₃, after, hchildren, hafter, rfl⟩ := walkNodes_append_gives_iff.mp hbehind
  obtain ⟨before', s₁, hbefore', halike₁, hbeside₁⟩ :=
    walkNodes_follows Event.isWarning hmore hinner.symm locals hxs₂ hst hbefore
  obtain ⟨notes, homit⟩ := homitted hbefore'
  have hnoted : RunState.Alongside Event.isWarning t₁ s₁ t₁
      (s₁.noting (Site.announcement ⟨⟨xtag, content⟩, inner₁, locals⟩ .omitTag raw :: notes)) :=
    (hbeside₁.agrees.alongside_unseen (filter_isWarning_of_omitted _ homit)).2
  obtain ⟨children', s₃, hchildren', halike₃, hbeside₃⟩ :=
    walkNodes_follows Event.isWarning (Nat.le_refl _) hopened.symm locals hcontent₂ hnoted.agrees
      hchildren
  have hreply := (permittedWalk_of_omitted hwaiting homit).mpr ⟨children', hchildren', rfl⟩
  -- Nothing but an illegal text at the front of the content could keep it from its place.
  have hallowed : ∀ e : Element, e.children = children' → (Reply.opens e).Allowed := by
    rintro e rfl
    exact legalFront_iff.mp (walkNodes_legalFront hchildren' hlegal)
  obtain ⟨here, s₄, hhere⟩ := Reply.place_succeeds inner₁ s₃ (hallowed
    ⟨(Site.without ⟨⟨xtag, content⟩, inner₁, locals⟩ .omitTag).element.tag, children'⟩ rfl)
  obtain ⟨hnodes, -, hs₄⟩ := Reply.place_gives hhere
  have hplaced : RunState.Alongside Event.isWarning t₃ s₃ t₃ s₄ :=
    hbeside₃.agrees.alongside_made .rfl hs₄
  obtain ⟨after', s', hafter', halike₄, hbeside₄⟩ :=
    walkNodes_follows Event.isWarning hmore hinner.symm locals hys₂ hplaced.agrees hafter
  have hhere' : RunsAlike children here := by
    unfold RunsAlike
    rw [hnodes, halike₃]
    exact (runs_spread _).symm
  exact ⟨before' ++ (here ++ after'), s',
    walkNodes_append_gives_iff.mpr ⟨before', s₁, _, hbefore',
      walkNodes_element_gives_iff.mpr ⟨_, s₃, here, s₄, after', hreply, hhere, hafter', rfl⟩, rfl⟩,
    halike₁.runsAlike.append (hhere'.append halike₄.runsAlike),
    (((hbeside₁.trans hnoted).trans hbeside₃).trans hplaced).trans hbeside₄⟩

/-! ### The parent of an omitted tag -/

/-- In a site some contexts are those in which the node behind the first children is reached: the
directives of the element have been handled, it has its children still, and the first of them
have been processed. -/
def Site.Reaches (ev : Expr.Evaluator) (site : Site) (s : RunState) (before : List Node)
    (locals globals : Entries) : Prop :=
  ∃ fuel here left s₁ nodes s₂,
    (handleDirectives (fun _ => true) ev (standardWalk ev fuel) site site.element.tag.waiting
      Directive.beforeOmission).Gives s (.on here, left) s₁ ∧
    here.element.children = site.element.children ∧ here.locals = locals ∧
    (walkNodes (standardWalk ev fuel) here.innerScope locals before).Gives s₁ nodes s₂ ∧
    s₂.globals = globals

/-- Contexts that are reached with permitted directives are reached. -/
theorem Site.reaches_of_permitted {permitted : Call → Bool} {site here : Site}
    {left : List (String × String)} {s₁ s₂ : RunState} {before nodes : List Node}
    {notes : List Event}
    (hdirectives : (handleDirectives permitted ev (permittedWalk permitted ev fuel) site
      site.element.tag.waiting Directive.beforeOmission).Gives s (.on here, left) s₁)
    (hchildren : here.element.children = site.element.children)
    (hbefore : (walkNodes (permittedWalk permitted ev fuel) here.innerScope here.locals
      before).Gives (s₁.noting notes) nodes s₂) :
    site.Reaches ev s before here.locals s₂.globals := by
  have hwithin : ∀ site, (permittedWalk permitted ev fuel site).Within
      (permittedWalk (fun _ => true) ev fuel site) :=
    permittedWalk_within (fun _ _ => rfl) (Nat.le_refl _)
  have hstate : s₁ = (s₁.noting notes).withNotes s₁.events := rfl
  obtain ⟨new, -, hbefore'⟩ := (walkNodes_within hwithin _ _ _).elsewhere hbefore hstate
  refine ⟨fuel, here, left, s₁, nodes, s₂.withNotes (s₁.events ++ new), ?_, hchildren, rfl, ?_, rfl⟩
  · rw [standardWalk_eq]
    exact (handleTags_within (fun _ _ => rfl) hwithin _ _ _).gives hdirectives
  · rw [standardWalk_eq]
    exact hbefore'

section

variable {ptag : Tag} (hrepeat : ptag.waiting.lookup Directive.repetition.tag = none)
  (hdeclared : xtag.declarations = []) (hwaiting : xtag.waiting = [(Directive.omitTag.tag, raw)])
  (hcoherent : scope.Coherent)
  (hscoped : (Node.element ptag (xs ++ .element xtag content :: ys)).isScoped scope = true)
  (homitted : ∀ locals' globals,
    Site.Reaches ev ⟨⟨ptag, xs ++ .element xtag content :: ys⟩, scope, locals⟩ s xs locals'
      globals → ∃ notes, omitted ev locals' globals raw = some (true, notes))
include hrepeat hdeclared hwaiting hcoherent hscoped homitted

/-- An element with an omitted tag in it can be followed with the content in its place. -/
private theorem parent_of_omitted_follows :
    Follows Event.isWarning (Reply.Alike RunsAlike) s s
      (permittedWalk Call.fillsUnmarked ev (fuel + 1)
        ⟨⟨ptag, xs ++ .element xtag content :: ys⟩, scope, locals⟩)
      (permittedWalk Call.fillsUnmarked ev (fuel + 1)
        ⟨⟨ptag, xs ++ (content ++ ys)⟩, scope, locals⟩) := by
  obtain ⟨hptag, hchildren⟩ := Bool.and_eq_true_iff.mp hscoped
  have hinner := hcoherent.alike.cons hptag
  -- The children stay those of the template until `content` puts others in their place.
  refine permittedWalk_follows
    (K := fun ms ns => (ms = xs ++ .element xtag content :: ys ∧ ns = xs ++ (content ++ ys))
      ∨ InsertedAlike ms ns) (Nat.le_refl _) hinner (fun ms ns h => .inr h)
    ⟨rfl, rfl, .rfl, .inl ⟨rfl, rfl⟩, rfl⟩ .rfl (fun hwaits => absurd hrepeat hwaits) ?_
  intro here₁ here₂ left s₁ t₁ hsite hagrees hreached _ notes
  have hnoted : (s₁.noting notes).Agrees (t₁.noting notes) := hagrees.noting notes notes
  rcases hsite.children with ⟨hms, hns⟩ | hinserted
  · rw [hms, hns]
    refine omitted_follows (Nat.le_refl _) hinner hdeclared hwaiting hchildren hnoted ?_
    intro before s₂ hbefore
    rw [← hsite.inner₁] at hbefore
    exact homitted _ _ (Site.reaches_of_permitted hreached hms hbefore)
  · exact (walkNodes_follows_of_inserted (Nat.le_refl _) hinserted hnoted).mono
      UnprefixedAlike.runsAlike

/-- The other way round, with one level more of nesting. -/
private theorem parent_of_omitted_followed
    (hlegal : ∀ text, .text text ∈ content → checkText text = .ok ()) :
    Follows Event.isWarning (Reply.Alike RunsAlike) s s
      (permittedWalk Call.fillsUnmarked ev (fuel + 1)
        ⟨⟨ptag, xs ++ (content ++ ys)⟩, scope, locals⟩)
      (permittedWalk Call.fillsUnmarked ev (fuel + 1 + 1)
        ⟨⟨ptag, xs ++ .element xtag content :: ys⟩, scope, locals⟩) := by
  obtain ⟨hptag, hchildren⟩ := Bool.and_eq_true_iff.mp hscoped
  have hinner := hcoherent.alike.cons hptag
  refine permittedWalk_follows
    (K := fun ms ns => (ms = xs ++ (content ++ ys) ∧ ns = xs ++ .element xtag content :: ys)
      ∨ InsertedAlike ms ns) (Nat.le_succ _) hinner (fun ms ns h => .inr h)
    ⟨rfl, rfl, .rfl, .inl ⟨rfl, rfl⟩, rfl⟩ .rfl (fun hwaits => absurd hrepeat hwaits) ?_
  intro here₁ here₂ left s₁ t₁ hsite hagrees _ hreached notes
  have hnoted : (s₁.noting notes).Agrees (t₁.noting notes) := hagrees.noting notes notes
  -- The children are those of the template, or content that was inserted in their place.
  rcases hsite.children with ⟨hms, hns⟩ | hinserted
  · rw [hms, hns]
    refine omitted_followed hinner hdeclared hwaiting hchildren hnoted hlegal ?_
    intro before s₂ hbefore
    rw [← hsite.inner₂, hsite.locals] at hbefore
    rw [hsite.locals]
    exact homitted _ _ (Site.reaches_of_permitted hreached hns hbefore)
  · exact (walkNodes_follows_of_inserted (Nat.le_succ _) hinserted hnoted).mono
      UnprefixedAlike.runsAlike

end

/-- An omitted tag is transparent. Take an element that is not to be repeated, and one of its
children that declares nothing and has no directive but an `omit-tag` that holds when the child is
reached. If the element can be relied on as one that was read, and no markup with directives of its
own is filled in, then processing the element gives the same content, the same global context and
the same warnings as processing it with the content of that child in its place. Nesting is one level
less deep without the child. -/
theorem omitted_tag_transparent {ptag : Tag}
    (hrepeat : ptag.waiting.lookup Directive.repetition.tag = none)
    (hdeclared : xtag.declarations = []) (hwaiting : xtag.waiting = [(Directive.omitTag.tag, raw)])
    (hcoherent : scope.Coherent)
    (hsound : (Node.element ptag (xs ++ .element xtag content :: ys)).IsSound scope)
    (homitted : ∀ locals' globals,
      Site.Reaches ev ⟨⟨ptag, xs ++ .element xtag content :: ys⟩, scope, locals⟩ s xs locals'
        globals → ∃ notes, omitted ev locals' globals raw = some (true, notes)) :
    (∀ {fuel reply s'},
      (standardWalk ev fuel ⟨⟨ptag, xs ++ .element xtag content :: ys⟩, scope, locals⟩).Gives s
        reply s' →
      (permittedWalk Call.fillsUnmarked ev fuel
        ⟨⟨ptag, xs ++ .element xtag content :: ys⟩, scope, locals⟩).Succeeds s →
      ∃ reply' t',
        (standardWalk ev fuel ⟨⟨ptag, xs ++ (content ++ ys)⟩, scope, locals⟩).Gives s reply' t' ∧
        Reply.Alike RunsAlike reply reply' ∧
        RunState.Alongside Event.isWarning s s s' t') ∧
    (∀ {fuel reply' t'},
      (standardWalk ev fuel ⟨⟨ptag, xs ++ (content ++ ys)⟩, scope, locals⟩).Gives s reply' t' →
      (permittedWalk Call.fillsUnmarked ev fuel
        ⟨⟨ptag, xs ++ (content ++ ys)⟩, scope, locals⟩).Succeeds s →
      ∃ reply s',
        (standardWalk ev (fuel + 1)
          ⟨⟨ptag, xs ++ .element xtag content :: ys⟩, scope, locals⟩).Gives s reply s' ∧
        Reply.Alike RunsAlike reply' reply ∧
        RunState.Alongside Event.isWarning s s t' s') := by
  -- The texts in the content were read, so the check that the omission adds cannot fail.
  have hlegal : ∀ text, .text text ∈ content → checkText text = .ok () := by
    intro text htext
    have hx : (Node.element xtag content).IsSound (ptag.frame :: scope) :=
      (Node.isSound_element_iff.mp hsound).2 _ (List.mem_append_right _ List.mem_cons_self)
    exact checkText_eq_ok_iff.mpr ((Node.isSound_element_iff.mp hx).2 _ htext).isLegal
  constructor
  · intro fuel reply s' hrun hpermitted
    have hrun := permitted_of_standardWalk hrun hpermitted
    cases fuel with
    | zero => exact (gives_throw_iff.mp hrun).elim
    | succ fuel =>
      obtain ⟨reply', t', hgives, halike, hbeside⟩ := parent_of_omitted_follows hrepeat hdeclared
        hwaiting hcoherent hsound.isScoped homitted hrun
      exact ⟨reply', t', standardWalk_of_permitted hgives, halike, hbeside⟩
  · intro fuel reply' t' hrun hpermitted
    have hrun := permitted_of_standardWalk hrun hpermitted
    cases fuel with
    | zero => exact (gives_throw_iff.mp hrun).elim
    | succ fuel =>
      obtain ⟨reply, s', hgives, halike, hbeside⟩ := parent_of_omitted_followed hrepeat hdeclared
        hwaiting hcoherent hsound.isScoped homitted hlegal hrun
      exact ⟨reply, s', standardWalk_of_permitted hgives, halike, hbeside⟩

end

/-- A paragraph in which a tag is omitted. -/
def omittingParagraph (content : List Node) : Element where
  tag := ⟨.plain "p", [], [⟨some "tal", standardUri⟩], some 1⟩
  children := [.text "a"] ++ content ++ [.text "c"]

/-- Content with a text at its front and a directive in it. -/
def filledItem : List Node :=
  [.text "b", .element ⟨.plain "i", [standardAttribute "content" "string:x"], [], some 1⟩ []]

/-- A state in which nothing is defined. -/
def undefinedState : RunState where
  globals := []
  events := []
  made := 0
  inCopy := false

/-- The tag of an element that only omits it. -/
def omittedTag : Tag := ⟨.plain "b", [standardAttribute "omit-tag" ""], [], some 1⟩

/-- The text in front of the element and that at the front of its content become one. -/
theorem omitted_tag_transparent_paragraph :
    ∃ reply reply' s' t',
      (standardWalk .standard 9 ⟨omittingParagraph [.element omittedTag filledItem], [], []⟩).Gives
        undefinedState reply s' ∧
      (standardWalk .standard 9 ⟨omittingParagraph filledItem, [], []⟩).Gives undefinedState
        reply' t' ∧
      Reply.Alike RunsAlike reply reply' ∧ s'.globals = t'.globals := by
  have hpermitted : (permittedWalk Call.fillsUnmarked .standard 9
      ⟨omittingParagraph [.element omittedTag filledItem], [], []⟩).Succeeds undefinedState := by
    decide +kernel
  obtain ⟨reply, s', hgives⟩ := succeeds_iff.mp hpermitted
  have hrun := standardWalk_of_permitted hgives
  have hsound : (Node.element (omittingParagraph []).tag
      ([.text "a"] ++ .element omittedTag filledItem :: [.text "c"])).IsSound [] :=
    ⟨by decide, by decide⟩
  have hwaiting : omittedTag.waiting = [(Directive.omitTag.tag, "")] := by decide
  have hcoherent : Scope.Coherent [] := trivial
  obtain ⟨reply', t', hrun', halike, hbeside⟩ := (omitted_tag_transparent
    (by decide) rfl hwaiting hcoherent hsound
    (fun locals globals _ => ⟨[], rfl⟩)).1 hrun hpermitted
  exact ⟨reply, reply', s', t', hrun, hrun', halike, hbeside.agrees.globals⟩

/-- An element that declares a default namespace and gives the prefix `p` another meaning than the
markup that comes in. -/
def otherwiseTag : Tag :=
  ⟨⟨some ⟨none, "urn:d"⟩, "r"⟩, [],
    [⟨none, "urn:d"⟩, ⟨some "p", "urn:other"⟩, ⟨some "tal", standardUri⟩], some 1⟩

/-- An empty element of the default namespace that only omits its tag. -/
def emptyOmitted : Node :=
  .element ⟨⟨some ⟨none, "urn:d"⟩, "x"⟩, [standardAttribute "omit-tag" ""], [], some 1⟩ []

/-- A prefix is made up when the element is taken out of its place. The markup behind it names the
prefix that would have been made up first, and no longer finds it. -/
theorem omitted_tag_makes_prefix :
    ¬ (standardWalk .standard 9 ⟨⟨otherwiseTag, emptyOmitted :: fadingItem.tail⟩, [], []⟩).Succeeds
      (withMarkup "ns0") ∧
    (standardWalk .standard 9 ⟨⟨otherwiseTag, fadingItem.tail⟩, [], []⟩).Succeeds
      (withMarkup "ns0") := by
  decide +kernel

end AttrTemplates
