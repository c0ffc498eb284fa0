import AttrTemplates.Proofs.Template.Plain

/-!
# `AttrTemplates.Proofs.Template.Failures`: how filling a template can fail

A template fails with a failure of the engine's own wherever something in it is wrong: an argument
that has the wrong form, an expression of an unknown type, a prefix that is not declared, a value
that is no markup. That is not all. A name that no attribute can have is found out only where the
attribute is set, and the local name `repeat` may be bound to something that the states of loops
cannot be read from; both failures come from below the engine, and so do those about sizes.

* `Site.IsPlain` is what is known of an element while its directives are handled,
  `handle_plain` that one directive keeps it, and `processNode_plain` the run;
* `failures_accounted_for` is the result for templates and plain data. `failure_not_own` is a
  template that fails with none of the engine's own failures.
-/

set_option autoImplicit false

namespace AttrTemplates

open Xml Run

/-! ### What directives leave -/

/-- A tag stays clean when an attribute is set to a legal value. -/
theorem isClean_taggedWith {site : Site} (h : site.element.tag.IsClean)
    (target : Option String × String) {value : String} (hvalue : isLegalText value = true)
    (made : Prefixes) : (taggedWith site target value made).1.IsClean := by
  unfold taggedWith
  dsimp only
  split
  · exact h.withAttribute _ hvalue
  · split
    · exact h.withAttribute _ hvalue
    · refine Tag.IsClean.withAttribute ?_ _ hvalue
      exact h

/-- An element stays clean when an attribute is removed. -/
theorem isClean_of_removeAttribute {e here : Element} {target : Option String × String}
    (h : e.toNode.IsClean) (hremove : removeAttribute e target = .ok here) :
    here.toNode.IsClean := by
  obtain ⟨htag, hchildren⟩ := Node.isClean_element_iff.mp h
  obtain ⟨-, rfl⟩ := removeAttribute_eq_ok_iff.mp hremove
  exact Node.isClean_element_iff.mpr ⟨htag.withoutAttribute _, hchildren⟩

/-- An element that attributes are assigned to stays clean, since every value is checked. -/
theorem isClean_of_assignAttributes {ev : Expr.Evaluator} {site : Site} {arguments : List String}
    {s s' : RunState} {e : Element} (h : site.element.toNode.IsClean)
    (hassign : (assignAttributes ev site arguments).Gives s e s') : e.toNode.IsClean := by
  induction arguments generalizing site s with
  | nil =>
    obtain ⟨rfl, -⟩ := assignAttributes_nil_gives_iff.mp hassign
    exact h
  | cons argument arguments ih =>
    obtain ⟨a, target, v, s₁, here, s₂, -, -, -, hfirst, hrest⟩ :=
      assignAttributes_cons_gives_iff.mp hassign
    refine ih ?_ hrest
    -- The first argument removes an attribute or sets one to a text that was checked.
    split at hfirst
    · exact isClean_of_removeAttribute h hfirst.1
    · obtain ⟨text, -, hset⟩ := hfirst
      obtain ⟨-, hcheck, rfl, -⟩ := setAttribute_gives_iff.mp hset
      obtain ⟨htag, hchildren⟩ := Node.isClean_element_iff.mp h
      exact Node.isClean_element_iff.mpr
        ⟨isClean_taggedWith htag target (checkText_eq_ok_iff.mp hcheck) s₁.made, hchildren⟩

/-- What `content` leaves is clean, if contexts bind names to plain data. -/
theorem isClean_of_content {site : Site} {raw : String} {s s' : RunState} {e : Element}
    {locals : Entries} (h : site.element.toNode.IsClean) (hraw : isLegalText raw = true)
    (hlocals : site.locals.HasPlain) (hglobals : s.globals.HasPlain)
    (hgives : (content .standard raw site).Gives s (.stays e locals) s') : e.toNode.IsClean := by
  obtain ⟨items, notes, s₁, children, hinserted, -, hsettle, hreply⟩ :=
    content_gives_iff.mp hgives
  -- What is inserted comes from an expression that a document may hold, so its value is plain.
  obtain ⟨a, v, hparse, hv, hitems⟩ := inserted_eq_some_iff.mp hinserted
  have hexpression : isLegalText a.expression = true :=
    List.all_eq_true.mpr (Insertion.forall_expression (List.all_eq_true.mp hraw) hparse)
  have hplain := Expr.Evaluator.valueIn_ends hlocals hglobals hexpression
  rw [hv] at hplain
  have hclean := a.items_ends hplain
  rw [hitems] at hclean
  obtain ⟨hnodes, -, -⟩ := settleAll_gives hsettle
  cases hreply
  refine Node.isClean_element_iff.mpr ⟨(Node.isClean_element_iff.mp h).1, ?_⟩
  refine areClean_unprefixedList_iff.mp fun n hn => ?_
  rw [hnodes] at hn
  obtain ⟨item, hitem, hn⟩ := List.mem_flatMap.mp hn
  exact item.isClean_standing (hclean item hitem) h _ n hn

/-- An element that stays after a directive is clean. -/
theorem Directive.isClean_of_stays {walk : Walk} {d : Directive} {site : Site} {raw : String}
    {s s' : RunState} {e : Element} {locals : Entries} (h : site.element.toNode.IsClean)
    (hraw : isLegalText raw = true) (hlocals : site.locals.HasPlain)
    (hglobals : s.globals.HasPlain)
    (hgives : (d.handle .standard walk raw site).Gives s (.stays e locals) s') :
    e.toNode.IsClean := by
  cases Directive.staysAs_of_handle hgives with
  | define | condition | omitTag => exact h
  | content => exact isClean_of_content h hraw hlocals hglobals hgives
  | attributes hassign => exact isClean_of_assignAttributes h hassign

/-! ### Elements -/

/-- What is known of an element while its directives are handled: it is clean, so are the arguments
that still wait, and its context is within the regime. -/
structure Site.IsPlain (R : Regime) (waiting : List (String × String)) (site : Site) : Prop where
  isClean : site.element.toNode.IsClean
  locals : R.locals site.locals
  waiting : ∀ w ∈ waiting, isLegalText w.2 = true

/-- So it is when nothing has been handled yet. -/
theorem Site.isPlain_waiting {R : Regime} {site : Site} (h : site.element.toNode.IsClean)
    (hlocals : R.locals site.locals) : site.IsPlain R site.element.tag.waiting := by
  refine ⟨h, hlocals, fun w hw => ?_⟩
  obtain ⟨a, ha, rfl⟩ := List.mem_map.mp hw
  have hlegal := (Node.isClean_element_iff.mp h).1 a (List.mem_filter.mp ha).1
  exact (Bool.and_eq_true_iff.mp hlegal).1

/-- An element stays clean when a directive is taken off. -/
theorem Site.isClean_without {site : Site} (h : site.element.toNode.IsClean) (d : Directive) :
    (site.without d).element.toNode.IsClean :=
  have ⟨htag, hchildren⟩ := Node.isClean_element_iff.mp h
  Node.isClean_element_iff.mpr ⟨htag.withoutAttribute _, hchildren⟩

/-- What processing the elements below one has to satisfy: with clean elements it stays within the
regime, and the texts at the front of what it gives are legal. -/
structure WalksPlain (R : Regime) (walk : Walk) : Prop where
  element : ∀ {site s t}, site.element.toNode.IsClean → R.locals site.locals → s.Related R t →
    Observes R R.Meets s t (walk site)
  front : ∀ {scope locals ns out s s'}, (walkNodes walk scope locals ns).Gives s out s' →
    (∀ t, .text t ∈ ns → checkText t = .ok ()) → LegalFront out

/-- By induction on the nodes: clean content is walked to nodes with a legal front. -/
theorem WalksPlain.content {R : Regime} {walk : Walk} (hwalk : WalksPlain R walk) {scope : Scope}
    {locals : Entries} {ns : List Node} (hclean : ∀ n ∈ ns, n.IsClean) (hlocals : R.locals locals)
    {s t : RunState} (hst : s.Related R t) :
    Observes R LegalFront s t (walkNodes walk scope locals ns) := by
  refine (walkNodes_observes (fun tag children hmem s t hst =>
    hwalk.element (hclean _ hmem) hlocals hst) hst).of_gives fun out s' hgives _ => ?_
  exact hwalk.front hgives fun t ht => checkText_eq_ok_iff.mpr (hclean _ ht).isLegal

section

variable {proper : Prop} {strays : Failure → Prop} {refusal : Failure} {permitted : Call → Bool}
  (hstrays : ¬proper → ∀ f : Failure, f.IsStray → strays f) (hrefusal : strays refusal)
  (hpermits : proper → ∀ c, permitted c = true → c.isProper = true)
include hstrays hrefusal hpermits

/-- A directive on a plain element stays within the regime, and leaves a plain element if any. -/
theorem handle_plain {walk : Walk} (hwalk : WalksPlain (.plain proper strays) walk) {site : Site}
    {waiting : List (String × String)} (h : site.IsPlain (.plain proper strays) waiting)
    {d : Directive} {raw : String} (hraw : waiting.lookup d.tag = some raw) {s t : RunState}
    (hst : s.Related (.plain proper strays) t) :
    Observes (.plain proper strays) (fun reply => (Regime.plain proper strays).Stands
        (Site.IsPlain (.plain proper strays) (waiting.filter fun w => w.1 != d.tag))
        (reply.progress (site.without d))) s t
      ((Language.refusing refusal permitted).handle .standard walk d.tag raw (site.without d)) := by
  -- Taking the directive off leaves a clean element, and its value is a legal text.
  have hclean := Site.isClean_without h.isClean d
  have hlocals : (Regime.plain proper strays).locals (site.without d).locals := h.locals
  have hlegal : isLegalText raw = true := by
    obtain ⟨before, after, rfl, -⟩ := List.lookup_eq_some_iff.mp hraw
    exact h.waiting (d.tag, raw) (by simp)
  refine refusing_handle_observes (.inr hrefusal) (by rw [hst.globals.1]) (fun hcall => ?_) hst
  have hadmits : (Regime.plain proper strays).Admits d raw :=
    Regime.plain_admits hstrays hlegal fun hproper => hpermits hproper _ hcall
  refine (Directive.handle_observes (Regime.plain_sound hstrays) hadmits hlocals ?_ ?_
    hst).of_gives fun reply s' hgives hmeets => ?_
  · -- The directive may walk a copy of the element, or its children as they are.
    intro _ context s t hcontext hst
    exact hwalk.element (Element.isClean_standalone hclean) hcontext hst
  · intro _ s t hst
    exact (hwalk.content (Node.isClean_element_iff.mp hclean).2 h.locals hst).mono fun _ => .inr
  · cases reply with
    | becomes | opens => exact hmeets
    | stays e locals =>
      have hleft := Directive.isClean_of_stays hclean hlegal h.locals.1 hst.globals.2 hgives
      exact ⟨hleft, hmeets.locals e locals rfl, fun w hw => h.waiting w (List.mem_filter.mp hw).1⟩

/-- Processing plain elements stays within the regime, at whatever depth. -/
theorem processNode_plain (fuel : Nat) : WalksPlain (.plain proper strays)
    (processNode [.refusing refusal permitted] .standard fuel) := by
  -- What is not refused is what the standard language does.
  have hfront : ∀ (fuel : Nat) {scope locals ns out} {s s' : RunState},
      (walkNodes (processNode [.refusing refusal permitted] .standard fuel) scope locals ns).Gives
        s out s' → (∀ t, .text t ∈ ns → checkText t = .ok ()) → LegalFront out := by
    intro fuel scope locals ns out s s' hgives hlegal
    have hguards := walkNodes_guards (processNode_guards refusal permitted .standard fuel) scope
      locals ns
    have hfree := hguards.gives hgives
    rw [standardWalk, ← permitting_true] at hfree
    exact walkNodes_legalFront hfree hlegal
  induction fuel with
  | zero => exact ⟨fun _ _ hst => observes_throw hst (.inl rfl), hfront 0⟩
  | succ fuel ih =>
    refine ⟨fun {site s t} hclean hlocals hst => ?_, hfront (fuel + 1)⟩
    refine processWith_observes (J := fun here => ∃ left, here.IsPlain (.plain proper strays) left)
      ((handleTags_observes (fun d _ raw waiting site s t h hraw hst =>
        handle_plain hstrays hrefusal hpermits ih h hraw hst)
        (Site.isPlain_waiting hclean hlocals) hst).mono fun p hp => ?_)
      fun here hhere => ?_
    · obtain ⟨progress, left⟩ := p
      cases progress with
      | done reply => exact hp
      | on here => exact ⟨left, hp⟩
    · obtain ⟨left, hhere⟩ := hhere
      have hchildren := (Node.isClean_element_iff.mp hhere.isClean).2
      exact ⟨hhere.locals, fun s t hst =>
        (ih.content hchildren hhere.locals hst).mono fun _ _ => trivial⟩

/-- Filling a template with plain data stays within the regime. -/
theorem Template.guarded_fails {source : Option Source} {data : Value} {globals : Entries}
    (hdata : data.isPlain = true) (hglobals : data.entriesIfAny = .ok globals) {f : Failure}
    (h : ((Template.guarded refusal permitted source).process data).1 = .error f) :
    (f.isExpected = true ∨ strays f) ∨ (Template.ofSource source).parse = .error f := by
  have hplain : globals.HasPlain :=
    Entries.hasPlain_of_areEntriesPlain (Value.areEntriesPlain_of_entriesIfAny hdata hglobals)
  refine (Template.process_observes (R := .plain proper strays) ?_ hglobals hglobals
    ⟨rfl, hplain⟩ fun d root hparse hroot s t hst => ?_).2 f h
  · exact (Regime.plain_sound hstrays).own
  · obtain ⟨declared, hread⟩ := Template.read_of_parse hparse
    have hclean := Source.isClean_root hread
    rw [hroot] at hclean
    exact (processNode_plain hstrays hrefusal hpermits maxNesting).element hclean
      ⟨(fun _ he => nomatch he), fun _ => ⟨[], rfl⟩⟩ hst

end

/-! ### Templates -/

/-- A source that is no document is a failure of the engine's own, unless it cannot be turned into
bytes. -/
theorem Template.parse_fails {source : Option Source} {f : Failure}
    (h : (Template.ofSource source).parse = .error f) :
    f.isOwn = true ∨ ∃ s, source = some s ∧ checkSource s = .error f := by
  unfold Template.parse Template.ofSource at h
  cases source with
  | none =>
    cases h
    exact .inl rfl
  | some source =>
    dsimp only at h
    -- A source is checked before it is read. Only the check can fail with a failure of another
    -- kind.
    cases hcheck : checkSource source with
    | error f' =>
      rw [hcheck] at h
      cases h
      exact .inr ⟨source, rfl, hcheck⟩
    | ok =>
      rw [hcheck] at h
      cases hread : source.declared.read .namespaced with
      | error p =>
        rw [hread] at h
        cases h
        exact .inl rfl
      | ok d =>
        rw [hread] at h
        cases h

/-- Every failure is accounted for. Where a template is filled with plain data and fails, the
failure is one of the engine's own, or something is larger than it may be, or the source cannot be
turned into bytes, or the data cannot be read as a mapping. Anything else comes from a name that no
attribute can have, or from what is bound to `repeat`; and then the template does assign to such a
name or bind a local `repeat`: where this is refused, under whichever failure, that failure is the
outcome. -/
theorem failures_accounted_for {source : Option Source} {data : Value} {f : Failure}
    (hdata : data.isPlain = true) (h : ((Template.ofSource source).process data).1 = .error f) :
    f.isOwn = true ∨ f.isLimit = true ∨ (∃ s, source = some s ∧ checkSource s = .error f) ∨
      data.entriesIfAny = .error f ∨ (f.IsStray ∧ ∀ refusal,
        ((Template.guarded refusal Call.isProper source).process data).1 = .error refusal) := by
  -- A failure of the source comes before all others, and then one of the data.
  by_cases hread : (Template.ofSource source).parse = .error f
  · rcases Template.parse_fails hread with hown | hsource
    · exact .inl hown
    · exact .inr (.inr (.inl hsource))
  cases hglobals : data.entriesIfAny with
  | error f' =>
    refine .inr (.inr (.inr (.inl ?_)))
    unfold Template.process at h
    rw [hglobals] at h
    cases hparse : (Template.ofSource source).parse with
    | error f'' =>
      rw [hparse] at h
      cases h
      exact (hread hparse).elim
    | ok d =>
      rw [hparse] at h
      cases h
      rfl
  | ok globals =>
    by_cases hexpected : f.isExpected = true
    · exact (Bool.or_eq_true_iff.mp hexpected).imp_right .inl
    · -- With all calls permitted the failure is a stray, with improper ones refused it cannot be.
      have hfree : Template.guarded .emptyTagName (fun _ => true) source
          = Template.ofSource source := by
        unfold Template.guarded Template.ofSource
        rw [refusing_true]
      have hloose : (f.isExpected = true ∨ f.IsStray) ∨
          (Template.ofSource source).parse = .error f :=
        Template.guarded_fails (fun (_ : ¬False) _ hf => hf) (.inl rfl) (fun hno => hno.elim) hdata
          hglobals (by rw [hfree, h])
      have hstray : f.IsStray := (hloose.resolve_right hread).resolve_left hexpected
      refine .inr (.inr (.inr (.inr ⟨hstray, fun refusal => ?_⟩)))
      by_contra hunrefused
      rw [← Template.guarded_process hunrefused] at h
      have hstrict : (f.isExpected = true ∨ refusal = f) ∨
          (Template.ofSource source).parse = .error f :=
        Template.guarded_fails (fun hno : ¬True => (hno trivial).elim) rfl (fun _ _ hc => hc) hdata
          hglobals h
      have hrefused : refusal = f := (hstrict.resolve_right hread).resolve_left hexpected
      subst hrefused
      exact hunrefused h

/-- A failure with a certain report can be found by asking for its report. -/
theorem exists_failure {α : Type} {x : Except Failure α} {report : FailureKind × String}
    (h : (((x.map fun _ => none).tryCatch fun f =>
      .ok (some (f.kind, f.message))).toOption.join) = some report) :
    ∃ f, x = .error f ∧ (f.kind, f.message) = report := by
  cases x with
  | error f => exact ⟨f, rfl, Option.some.inj h⟩
  | ok a => exact nomatch h

/-- A template that shows the value of an expression of a type that there is not. -/
def untypedSource : Option Source := some (.text
  "<r xmlns:tal=\"http://xml.zope.org/namespaces/tal\"><p tal:content=\"string:$n ${sum: n}\"/></r>")

/-- Data with a number in them. -/
def oneNumber : Value := .map [(.str "n", .int 1)]

/-- An expression of unknown type, in a loop over one number. -/
theorem failures_accounted_for_untyped :
    ∃ f, ((Template.ofSource untypedSource).process oneNumber).1 = .error f ∧
      (f.kind, f.message) = (.unknownExpressionType, "unknown TALES type 'sum'") ∧
      (f.isOwn = true ∨ f.isLimit = true ∨
        (∃ s, untypedSource = some s ∧ checkSource s = .error f) ∨
        oneNumber.entriesIfAny = .error f ∨ (f.IsStray ∧ ∀ refusal,
          ((Template.guarded refusal Call.isProper untypedSource).process oneNumber).1
            = .error refusal)) := by
  obtain ⟨f, hfails, hreport⟩ : ∃ f,
      ((Template.ofSource untypedSource).process oneNumber).1 = .error f ∧
        (f.kind, f.message) = (.unknownExpressionType, "unknown TALES type 'sum'") :=
    exists_failure (by decide +kernel)
  exact ⟨f, hfails, hreport, failures_accounted_for rfl hfails⟩

/-- A template that assigns to an attribute whose name begins with a digit. -/
def misnamedSource : Option Source := some (.text
  "<r xmlns:tal=\"http://xml.zope.org/namespaces/tal\"><a tal:attributes=\"1a string:x\"/></r>")

/-- Not every failure is one of the engine's own. -/
theorem failure_not_own :
    ∃ f, ((Template.ofSource misnamedSource).process (.map [])).1 = .error f ∧
      (f.kind, f.message) = (.valueError, "Invalid attribute name '1a'") ∧ f.isOwn = false := by
  obtain ⟨f, hfails, hreport⟩ : ∃ f,
      ((Template.ofSource misnamedSource).process (.map [])).1 = .error f ∧
        (f.kind, f.message) = (.valueError, "Invalid attribute name '1a'") :=
    exists_failure (by decide +kernel)
  refine ⟨f, hfails, hreport, ?_⟩
  unfold Failure.isOwn
  rw [(Prod.mk.inj hreport).1]
  rfl

end AttrTemplates
