import AttrTemplates.Proofs.Expr.Names
import AttrTemplates.Proofs.Template.Regime
import AttrTemplates.Proofs.Template.Reordered
import AttrTemplates.Proofs.Template.Repeated
import AttrTemplates.Proofs.Template.Untouched
import AttrTemplates.Proofs.Xml.Needed

/-!
# `AttrTemplates.Proofs.Template.Names`: the names that matter to a template

The expressions of a template stand in the directives of its source, and the names they look up can
be read off. Two sets of data that have the same values under these names fill the template to the
same document, with the same notes, or to the same failure: nothing is looked up under a name that
comes from elsewhere.

Two things could bring in other names. A placeholder in braces holds an expression of its own, and
inserted markup can have directives. Templates with the former are left out, and the latter is
refused.

* `Attribute.expressions` are the expressions in an attribute. It is read once more in every copy,
  where references to entities in it stand for nothing.
* `WalksAgreeing` says what the processing below an element has to satisfy, and
  `processNode_agreeing` that it does.
* `process_depends_on_names` is the result for templates. `depends_on_more_than_was_read` shows that
  the names in the values that were read are not enough.
-/

set_option autoImplicit false

namespace AttrTemplates

open Xml Run

/-! ### Expressions in a template -/

namespace Xml

/-- The values that an attribute has: the one that was read, and the one in a copy, where references
to entities stand for nothing. -/
def Attribute.readings (a : Attribute) : List String := [a.value, a.unexpanded.value]

/-- A copy of a copy brings nothing new. -/
theorem Attribute.readings_unexpanded (a : Attribute) :
    ∀ raw ∈ a.unexpanded.readings, raw ∈ a.readings := by
  unfold readings
  rw [a.unexpanded_unexpanded]
  intro raw hraw
  simp only [List.mem_cons, List.not_mem_nil, or_false, or_self] at hraw ⊢
  exact .inr hraw

/-- The expressions in an attribute, if it is a directive, with a certain value. -/
def Attribute.expressionsIn (a : Attribute) (raw : String) : List String :=
  (Directive.all.filter a.isFor).flatMap (·.expressions raw)

/-- The expressions in an attribute, as it was read and in a copy. -/
def Attribute.expressions (a : Attribute) : List String := a.readings.flatMap a.expressionsIn

/-- The expressions of an attribute are those that its directive makes of its value. -/
theorem Attribute.mem_expressions {a : Attribute} {d : Directive} {raw e : String}
    (hd : a.isFor d = true) (hraw : raw ∈ a.readings) (he : e ∈ d.expressions raw) :
    e ∈ a.expressions :=
  List.mem_flatMap.mpr ⟨raw, hraw, List.mem_flatMap.mpr
    ⟨d, List.mem_filter.mpr ⟨d.mem_all, hd⟩, he⟩⟩

mutual

/-- The attributes in a copy are those of the tree that was copied. -/
theorem Node.attributes_duplicate :
    (n : Node) → n.duplicate.attributes = n.attributes.map Attribute.unexpanded
  | .element tag children => by
    rw [Node.duplicate, Node.attributes, Node.attributes, List.map_append,
      attributesList_duplicate children]
    rfl
  | .comment .. => rfl
  | .instruction .. => rfl
  | .reference _ => rfl
  | .text _ => rfl

/-- Duplicates of nodes have the same attributes, with values in one piece. -/
theorem attributesList_duplicate : (ns : List Node) →
    attributesList (duplicateList ns) = (attributesList ns).map Attribute.unexpanded
  | [] => rfl
  | n :: ns => by
    rw [duplicateList, attributesList, attributesList, List.map_append,
      Node.attributes_duplicate n, attributesList_duplicate ns]

end

end Xml

/-- The expressions in the directives of a template. -/
def Template.expressions (t : Template) : List String :=
  match t.parse with
  | .ok d => d.root.attributes.flatMap Attribute.expressions
  | .error _ => []

/-- The names that a template looks up. -/
def Template.names (t : Template) : List String := t.expressions.flatMap Expr.namesIn

/-- Whether no expression of a template has a placeholder in braces. -/
def Template.isUnbraced (t : Template) : Bool := t.expressions.all Expr.isUnbraced

/-! ### Contexts that agree on names -/

/-- The regime in which the global contexts agree on some names. Of all else nothing is asked. -/
def Regime.agreeing (names : List String) : Regime where
  globals := Expr.AgreeOn names
  locals _ := True
  value _ := True
  fails _ := True
  known e := Expr.isUnbraced e = true ∧ ∀ n ∈ Expr.namesIn e, n ∈ names
  bindable _ := True

section

variable {names : List String}

/-- Everything that is asked of an outcome is satisfied. -/
theorem Regime.agreeing_settled {α : Type} {Q : α → Prop} (h : ∀ a, Q a) (x : Except Failure α) :
    (Regime.agreeing names).Settled Q x := by
  cases x with
  | error f => trivial
  | ok a => exact h a

/-- Any text may be settled in this regime, as both runs settle the same. -/
theorem Regime.agreeing_lenient : (Regime.agreeing names).Lenient := fun _ => trivial

/-- Contexts still agree on the names when one more is bound alike. -/
theorem Expr.AgreeOn.bind {g₁ g₂ : Entries} (h : Expr.AgreeOn names g₁ g₂) (n : String)
    (v : Value) : Expr.AgreeOn names (g₁.bind n v) (g₂.bind n v) := by
  intro m hm
  by_cases hname : m = n
  · rw [hname, Entries.get, Entries.get, Entries.get?_bind_self, Entries.get?_bind_self]
  · have hother := h m hm
    unfold Entries.get at hother ⊢
    rwa [Entries.get?_bind_of_ne _ _ hname, Entries.get?_bind_of_ne _ _ hname]

/-- Evaluation looks up nothing but the names in an expression. -/
theorem Regime.agreeing_sound (names : List String) :
    (Regime.agreeing names).Sound .standard where
  valueIn hknown _ hglobals :=
    ⟨Expr.Evaluator.valueIn_congr _ hknown.1 (hglobals.mono hknown.2),
      agreeing_settled (fun _ => trivial) _⟩
  bindGlobal n _ hglobals _ := hglobals.bind n _
  bindLocal _ _ _ := trivial
  loops _ := agreeing_settled (fun _ _ _ _ _ _ => trivial) _
  items _ _ _ _ := trivial
  written _ := agreeing_settled (fun _ => .inl agreeing_lenient) _
  fragment _ := agreeing_settled (fun _ => .inl agreeing_lenient) _
  own _ _ := trivial

/-- All expressions in an attribute are without braces, and look up nothing but some names. -/
def Xml.Attribute.LooksUp (names : List String) (a : Attribute) : Prop :=
  ∀ e ∈ a.expressions, (Regime.agreeing names).known e

/-- A directive that looks up certain names is admitted where contexts agree on those. -/
theorem Xml.Attribute.LooksUp.admits {a : Attribute} (h : a.LooksUp names) {d : Directive}
    (hd : a.isFor d = true) {raw : String} (hraw : raw ∈ a.readings) :
    (Regime.agreeing names).Admits d raw where
  known e he := h e (Attribute.mem_expressions hd hraw he)
  bindable _ _ := trivial
  assignable := .inl fun _ _ => trivial

/-- An attribute looks up the same names in one piece. -/
theorem Xml.Attribute.LooksUp.unexpanded {a : Attribute} (h : a.LooksUp names) :
    a.unexpanded.LooksUp names := by
  intro e he
  obtain ⟨raw, hraw, he⟩ := List.mem_flatMap.mp he
  obtain ⟨d, hd, he⟩ := List.mem_flatMap.mp he
  have hfor : a.isFor d = true := by
    rw [← a.isFor_unexpanded]
    exact (List.mem_filter.mp hd).2
  exact h e (Attribute.mem_expressions hfor (a.readings_unexpanded raw hraw) he)

/-- What a call fills in depends on the names in its argument. -/
theorem fillsUnmarked_congr {d : Directive} {raw : String}
    (h : (Regime.agreeing names).Admits d raw) (site : Site) {g₁ g₂ : Entries}
    (hglobals : Expr.AgreeOn names g₁ g₂) :
    Call.fillsUnmarked ⟨.standard, d, raw, site, g₁⟩
      = Call.fillsUnmarked ⟨.standard, d, raw, site, g₂⟩ := by
  have hinserted : d = .content →
      inserted .standard site.locals g₁ raw = inserted .standard site.locals g₂ raw := by
    rintro rfl
    have hknown := h.known
    unfold Directive.expressions at hknown
    unfold inserted
    cases hparse : Insertion.parse? raw with
    | none => rfl
    | some a =>
      dsimp only at hknown
      rw [hparse] at hknown
      obtain ⟨hunbraced, hnames⟩ := hknown a.expression List.mem_cons_self
      dsimp only
      rw [Expr.Evaluator.valueIn_congr _ hunbraced (hglobals.mono hnames)]
  -- The other directives fill in nothing, so nothing is asked of what they insert.
  cases d with
  | content =>
    unfold Call.fillsUnmarked Call.insertsUnmarked
    dsimp only
    rw [hinserted rfl]
  | define | condition | repetition | replace | attributes | omitTag => rfl

/-! ### Elements of the source -/

/-- An element as it was read, or a copy of one, whose directives look up nothing but some names. -/
structure Site.LooksUp (names : List String) (site : Site) : Prop where
  coherent : site.scope.Coherent
  isBound : site.element.toNode.isBound site.scope = true
  attributes : ∀ a ∈ site.element.toNode.attributes, a.LooksUp names

/-- Children as they were read, whose directives look up nothing but some names, or children that
were filled in and have no directives. -/
def ContentLooksUp (names : List String) (scope : Scope) (ns : List Node) : Prop :=
  marksList ns = [] ∨
    areBound scope ns = true ∧ ∀ a ∈ attributesList ns, a.LooksUp names

namespace Site.LooksUp

variable {site : Site} (h : site.LooksUp names)
include h

/-- The scope inside the element is coherent. -/
theorem innerScope_coherent : site.innerScope.Coherent :=
  ⟨Tag.isScoped_of_isBound (Bool.and_eq_true_iff.mp h.isBound).1, h.coherent⟩

/-- The content of the element looks up these names only. -/
theorem content : ContentLooksUp names site.innerScope site.element.children :=
  .inr ⟨(Bool.and_eq_true_iff.mp h.isBound).2,
    fun a ha => h.attributes a (List.mem_append_right _ ha)⟩

/-- A directive is taken off. -/
theorem without (d : Directive) : (site.without d).LooksUp names := by
  obtain ⟨htag, hchildren⟩ := Bool.and_eq_true_iff.mp h.isBound
  have hsublist : ((site.without d).element.tag.attributes).Sublist site.element.tag.attributes :=
    List.filter_sublist
  refine ⟨h.coherent, Bool.and_eq_true_iff.mpr ⟨List.all_eq_true.mpr fun n hn => ?_, hchildren⟩,
    fun a ha => h.attributes a ?_⟩
  · have hnames : (site.without d).element.tag.names ⊆ site.element.tag.names :=
      List.cons_subset_cons _ (hsublist.map _).subset
    exact List.all_eq_true.mp htag n (hnames hn)
  · exact (List.Sublist.append_right hsublist _).subset ha

/-- A copy is such an element again, wherever it is processed. -/
theorem standalone (context : Entries) :
    Site.LooksUp names ⟨site.element.standalone, [], context⟩ := by
  obtain ⟨added, hcopy, -⟩ := Element.standalone_of_isBound h.isBound
  refine ⟨trivial, Element.isBound_standalone h.isBound, fun a ha => ?_⟩
  have hattributes : site.element.standalone.toNode.attributes
      = site.element.toNode.attributes.map Attribute.unexpanded := by
    rw [hcopy, ← Node.attributes_duplicate]
    rfl
  dsimp only at ha
  rw [hattributes] at ha
  obtain ⟨a', ha', rfl⟩ := List.mem_map.mp ha
  exact (h.attributes a' ha').unexpanded

/-- What waits on such an element looks up nothing but the names. -/
theorem admits {d : Directive} {raw : String}
    (hraw : site.element.tag.waiting.lookup d.tag = some raw) :
    (Regime.agreeing names).Admits d raw := by
  rw [Tag.lookup_waiting] at hraw
  obtain ⟨a, hfound, rfl⟩ := Option.map_eq_some_iff.mp hraw
  obtain ⟨ha, hd⟩ := List.mem_filter.mp (List.mem_of_mem_head? hfound)
  exact (h.attributes a (List.mem_append_left _ ha)).admits hd List.mem_cons_self

end Site.LooksUp

/-! ### Processing -/

/-- What processing the elements below one has to satisfy: it comes to the same end, whatever else
the contexts hold. -/
structure WalksAgreeing (names : List String) (walk : Walk) : Prop where
  element : ∀ {site s t}, site.LooksUp names → s.Related (.agreeing names) t →
    Observes (.agreeing names) (Regime.agreeing names).Meets s t (walk site)
  unmarked : ∀ {scope locals ns s t}, marksList ns = [] → s.Related (.agreeing names) t →
    Observes (.agreeing names) (fun _ => True) s t (walkNodes walk scope locals ns)

/-- Content that looks up these names only is walked to the same end. -/
theorem WalksAgreeing.content {walk : Walk} (hwalk : WalksAgreeing names walk) {scope : Scope}
    {locals : Entries} {ns : List Node} (hcoherent : scope.Coherent)
    (h : ContentLooksUp names scope ns) {s t : RunState} (hst : s.Related (.agreeing names) t) :
    Observes (.agreeing names) (fun _ => True) s t (walkNodes walk scope locals ns) := by
  rcases h with hmarks | ⟨hbound, hattributes⟩
  · exact hwalk.unmarked hmarks hst
  · refine walkNodes_observes (fun tag children hmem s t hst => hwalk.element ?_ hst) hst
    refine ⟨hcoherent, areBound_iff.mp hbound _ hmem, fun a ha => hattributes a ?_⟩
    rw [attributesList_eq_flatMap]
    exact List.mem_flatMap.mpr ⟨_, hmem, ha⟩

/-- An element of which nothing has changed but that directives were taken off. -/
structure Site.Begun (names : List String) (waiting : List (String × String)) (site : Site) :
    Prop where
  looksUp : site.LooksUp names
  waiting : waiting = site.element.tag.waiting

/-- An element that may have changed, as far as the directives that still wait may. -/
structure Site.Changed (names : List String) (waiting : List (String × String)) (site : Site) :
    Prop where
  coherent : site.innerScope.Coherent
  admits : ∀ (d : Directive) raw, waiting.lookup d.tag = some raw →
    (Regime.agreeing names).Admits d raw
  content : ContentLooksUp names site.innerScope site.element.children

/-- A site at which nothing has happened yet is one that may have changed. -/
theorem Site.Begun.changed {waiting : List (String × String)} {site : Site}
    (h : site.Begun names waiting) : site.Changed names waiting :=
  ⟨h.looksUp.innerScope_coherent, fun _ _ hraw => h.looksUp.admits (h.waiting ▸ hraw),
    h.looksUp.content⟩

/-- A directive has been handled, and the element is in the same scope. -/
theorem Site.Changed.after {waiting : List (String × String)} {site here : Site}
    (h : site.Changed names waiting) (d : Directive) (hscope : here.innerScope = site.innerScope)
    (hcontent : ContentLooksUp names site.innerScope here.element.children) :
    here.Changed names (waiting.filter fun w => w.1 != d.tag) := by
  refine ⟨hscope ▸ h.coherent, fun d' raw hraw => ?_, hscope ▸ hcontent⟩
  rw [lookup_filter_ne] at hraw
  split at hraw
  · cases hraw
  · exact h.admits d' raw hraw

section

variable {refusal : Failure} {walk : Walk} {waiting : List (String × String)} {site : Site}
  {d : Directive} {raw : String} {s t : RunState}

/-- A directive comes to the same end in both runs, and leaves what it leaves. -/
theorem handle_agreeing (hwalk : WalksAgreeing names walk) {Q : Reply → Prop}
    (hadmits : (Regime.agreeing names).Admits d raw)
    (hcopy : d = .repetition → site.LooksUp names)
    (hcoherent : site.innerScope.Coherent)
    (hcontent : ContentLooksUp names site.innerScope site.element.children)
    (hQ : ∀ reply s', Call.fillsUnmarked ⟨.standard, d, raw, site, s.globals⟩ = true →
      (d.handle .standard walk raw site).Gives s reply s' →
        (Regime.agreeing names).Meets reply → Q reply)
    (hst : s.Related (.agreeing names) t) :
    Observes (.agreeing names) Q s t
      ((Language.refusing refusal Call.fillsUnmarked).handle .standard walk d.tag raw site) := by
  refine refusing_handle_observes trivial (fillsUnmarked_congr hadmits site hst.globals)
    (fun hpermitted => ?_) hst
  refine (Directive.handle_observes (Regime.agreeing_sound names) hadmits trivial ?_ ?_ hst).of_gives
    fun reply s' => hQ reply s' hpermitted
  · rintro rfl context s t - hst
    exact hwalk.element ((hcopy rfl).standalone context) hst
  · rintro rfl s t hst
    exact (hwalk.content hcoherent hcontent hst).mono fun _ _ => .inl Regime.agreeing_lenient

/-- Up to `repeat`, directives leave an element as it is. -/
theorem begun_observes (hwalk : WalksAgreeing names walk)
    (hd : d ∈ [Directive.define, .condition, .repetition]) (h : site.Begun names waiting)
    (hraw : waiting.lookup d.tag = some raw) (hst : s.Related (.agreeing names) t) :
    Observes (.agreeing names) (fun reply => (Regime.agreeing names).Stands
        (Site.Begun names (waiting.filter fun w => w.1 != d.tag))
        (reply.progress (site.without d))) s t
      ((Language.refusing refusal Call.fillsUnmarked).handle .standard walk d.tag raw
        (site.without d)) := by
  obtain ⟨h, rfl⟩ := h
  have hoff := h.without d
  refine handle_agreeing hwalk (h.admits hraw) (fun _ => hoff) hoff.innerScope_coherent hoff.content
    (fun reply s' _ hr hmeets => ?_) hst
  have hwaits : (site.element.tag.waiting.filter fun w => w.1 != d.tag)
      = (site.without d).element.tag.waiting := (Tag.waiting_without _ _).symm
  cases reply with
  | becomes | opens => exact hmeets
  | stays e locals =>
    -- The three directives in front leave the element as it was, if they leave it at all.
    obtain rfl : e = (site.without d).element := by
      cases Directive.staysAs_of_handle hr with
      | define | condition | omitTag => rfl
      | content | attributes => exact absurd hd (by decide)
    exact ⟨⟨hoff.coherent, hoff.isBound, hoff.attributes⟩, hwaits⟩

/-- The directives after it leave an element in the scope it is in. -/
theorem changed_observes (hwalk : WalksAgreeing names walk)
    (hd : d ∈ [Directive.content, .replace, .attributes, .omitTag])
    (h : site.Changed names waiting) (hraw : waiting.lookup d.tag = some raw)
    (hst : s.Related (.agreeing names) t) :
    Observes (.agreeing names) (fun reply => (Regime.agreeing names).Stands
        (Site.Changed names (waiting.filter fun w => w.1 != d.tag))
        (reply.progress (site.without d))) s t
      ((Language.refusing refusal Call.fillsUnmarked).handle .standard walk d.tag raw
        (site.without d)) := by
  refine handle_agreeing hwalk (h.admits d raw hraw) (fun hrepeat => ?_) h.coherent h.content
    (fun reply s' hpermitted hr hmeets => ?_) hst
  · rw [hrepeat] at hd
    exact absurd hd (by decide)
  · cases reply with
    | becomes | opens => exact hmeets
    | stays e locals =>
      -- Of the other four only some can leave the element, each with content that looks up nothing
      -- new.
      cases Directive.staysAs_of_handle hr with
      | content =>
        obtain ⟨children, hmarks, hreply⟩ := unmarked_of_content hpermitted hr
        cases hreply
        exact h.after _ rfl (.inl hmarks)
      | attributes hassign =>
        have hframe : e.tag.frame = (site.without .attributes).element.tag.frame :=
          frame_of_assignAttributes h.coherent hassign
        have hchildren : e.children = (site.without .attributes).element.children :=
          children_of_assignAttributes hassign
        refine h.after _ (congrArg (· :: site.scope) hframe) ?_
        show ContentLooksUp names site.innerScope e.children
        rw [hchildren]
        exact h.content
      | omitTag => exact h.after _ rfl h.content
      | define | condition => exact absurd hd (by decide)

/-- All directives of an element come to the same end in both runs. -/
theorem handleDirectives_agreeing (hwalk : WalksAgreeing names walk) (h : site.LooksUp names)
    (hst : s.Related (.agreeing names) t) :
    Observes (.agreeing names)
      (fun p => (Regime.agreeing names).Stands (Site.Changed names p.2) p.1) s t
      (handleTags (.refusing refusal Call.fillsUnmarked) .standard walk site
        site.element.tag.waiting (Directive.all.map Directive.tag)) := by
  have hall : Directive.all.map Directive.tag
      = [Directive.define, .condition, .repetition].map Directive.tag
        ++ [Directive.content, .replace, .attributes, .omitTag].map Directive.tag := rfl
  rw [hall, handleTags_append rfl]
  have hfirst : site.Begun names site.element.tag.waiting := ⟨h, rfl⟩
  refine (handleTags_observes (fun d hd raw waiting site s t h hraw hst =>
    begun_observes hwalk hd h hraw hst) hfirst hst).bind fun p s₁ t₁ hstands h₁ => ?_
  obtain ⟨progress, left⟩ := p
  cases progress with
  | done reply => exact observes_pure h₁ hstands
  | on here =>
    exact handleTags_observes (fun d hd raw waiting site s t h hraw hst =>
      changed_observes hwalk hd h hraw hst) (Site.Begun.changed hstands) h₁

end

/-- Processing looks up nothing but the names, at whatever depth. -/
theorem processNode_agreeing (names : List String) (refusal : Failure) (fuel : Nat) :
    WalksAgreeing names
      (processNode [.refusing refusal Call.fillsUnmarked] .standard fuel) := by
  -- Markup without marks is left alone, so what has been filled in needs no hypothesis on names.
  have hunmarked : ∀ (fuel : Nat) {scope locals ns} {s t : RunState}, marksList ns = [] →
      s.Related (.agreeing names) t → Observes (.agreeing names) (fun _ => True) s t
        (walkNodes (processNode [.refusing refusal Call.fillsUnmarked] .standard fuel) scope locals
          ns) := by
    intro fuel scope locals ns s t hmarks hst
    rw [walkNodes_of_foreign (foreign_of_unmarked rfl hmarks)]
    split
    · exact observes_pure hst trivial
    · exact observes_throw hst trivial
  induction fuel with
  | zero => exact ⟨fun _ hst => observes_throw hst trivial, hunmarked 0⟩
  | succ fuel ih =>
    refine ⟨fun h hst => ?_, hunmarked (fuel + 1)⟩
    refine processWith_observes (J := fun here => ∃ waiting, here.Changed names waiting)
      ((handleDirectives_agreeing ih h hst).mono fun p hp => ?_)
      fun here hhere => ⟨trivial, fun s t hst => ?_⟩
    · obtain ⟨progress, left⟩ := p
      cases progress with
      | done reply => exact hp
      | on here => exact ⟨left, hp⟩
    · obtain ⟨waiting, hhere⟩ := hhere
      exact ih.content hhere.coherent hhere.content hst

end

/-! ### Templates -/

/-- Only the names written in a template matter. Where no expression has a placeholder in braces,
and no markup is filled in that has attributes of the standard language, two sets of data that have
the same value, or none, under each of the names that the template looks up fill it to the same: the
same document, or the same failure, and the same notes. Of the data nothing else is asked.

It is enough to know of one of the sets that no such markup is filled in: where it is refused, under
a failure of one's own choice, that failure is not the outcome. -/
theorem process_depends_on_names {source : Option Source} {data₁ data₂ : Value} {g₁ g₂ : Entries}
    {refusal : Failure} (h₁ : data₁.entriesIfAny = .ok g₁) (h₂ : data₂.entriesIfAny = .ok g₂)
    (hagree : Expr.AgreeOn (Template.ofSource source).names g₁ g₂)
    (hunbraced : (Template.ofSource source).isUnbraced = true)
    (hunrefused : ((Template.guarded refusal Call.fillsUnmarked source).process data₁).1
      ≠ .error refusal) :
    (Template.ofSource source).process data₁ = (Template.ofSource source).process data₂ := by
  have hroot : ∀ d root, (Template.ofSource source).parse = .ok d → d.root = Element.toNode root →
      ∀ s t, s.Related (.agreeing (Template.ofSource source).names) t →
        Observes (.agreeing (Template.ofSource source).names)
          (Regime.agreeing (Template.ofSource source).names).Meets s t
          (processNode [.refusing refusal Call.fillsUnmarked] .standard maxNesting
            ⟨root, [], []⟩) := by
    intro d root hparse hroot s t hst
    obtain ⟨declared, hread⟩ := Template.read_of_parse hparse
    have hbound := Source.isBound_root hread
    rw [hroot] at hbound
    refine (processNode_agreeing _ refusal maxNesting).element
      ⟨trivial, hbound, fun a ha e he => ?_⟩ hst
    have hmem : e ∈ (Template.ofSource source).expressions := by
      unfold Template.expressions
      rw [hparse]
      exact List.mem_flatMap.mpr ⟨a, hroot ▸ ha, he⟩
    exact ⟨List.all_eq_true.mp hunbraced e hmem,
      fun n hn => List.mem_flatMap.mpr ⟨e, hmem, hn⟩⟩
  -- The refusing runs over both sets come to the same, and neither to the refusal. So both agree
  -- with the standard language.
  obtain ⟨hsame, -⟩ := Template.process_observes (fun _ _ => trivial) h₁ h₂ hagree hroot
  rw [← Template.guarded_process hunrefused, ← Template.guarded_process (hsame ▸ hunrefused), hsame]

/-- A list whose items are shown if there are any. -/
def listSource : Option Source := some (.text
  "<ul xmlns:tal=\"http://xml.zope.org/namespaces/tal\"><li tal:repeat=\"i xs\" tal:content=\"i\"/></ul>")

/-- Data with a list of one text in them. -/
def oneItem : Entries := [(.str "xs", .list [.str "Ada"])]

/-- A list that is filled with one entry more, which nothing in it looks up. -/
theorem process_depends_on_names_listSource :
    (Template.ofSource listSource).process (.map oneItem)
      = (Template.ofSource listSource).process
        (.map ((.str "y", .str "a value that nothing looks up") :: oneItem)) := by
  have hnames : (Template.ofSource listSource).names = ["xs", "xs", "i", "i"] := by decide +kernel
  have hagree : Expr.AgreeOn (Template.ofSource listSource).names oneItem
      ((.str "y", .str "a value that nothing looks up") :: oneItem) := by
    rw [hnames]
    intro n hn
    simp only [List.mem_cons, List.not_mem_nil, or_false] at hn
    rcases hn with rfl | rfl | rfl | rfl <;> rfl
  have hsucceeds : ((Template.guarded .noSource Call.fillsUnmarked listSource).process
      (.map oneItem)).1.toOption.isSome = true := by decide +kernel
  have hunrefused : ((Template.guarded .noSource Call.fillsUnmarked listSource).process
      (.map oneItem)).1 ≠ .error .noSource := by
    intro hrefused
    rw [hrefused] at hsucceeds
    cases hsucceeds
  exact process_depends_on_names rfl rfl hagree (by decide +kernel) hunrefused

/-- An element in which an entity is referred to inside a repeated element. The entity stands for
a name with a slash behind it. -/
def referringRoot : Element where
  tag := ⟨.plain "r", [], [⟨some "tal", standardUri⟩], some 1⟩
  children := [.element ⟨.plain "p", [standardAttribute "repeat" "i xs"], [], some 1⟩
    [.element ⟨.plain "q", [{ standardAttribute "content" "a/y" with
      spelling := [.reference "e" "a/", .text "y"] }], [], some 1⟩ []]]

/-- A document with that root. -/
def referringDocument : Document := .ofNode "1.0" referringRoot.toNode [] []

/-- The names in the values that were read are not enough. An attribute in which an entity is
referred to has another value in a copy, and other names in it. -/
theorem depends_on_more_than_was_read :
    (∀ e ∈ referringDocument.root.attributes.flatMap fun a => a.expressionsIn a.value,
      Expr.isUnbraced e = true ∧
        Expr.AgreeOn (Expr.namesIn e) oneItem ((.str "y", .str "Y") :: oneItem)) ∧
    (((Template.ofSource none).processDocument referringDocument).outcome oneItem).1.toOption.map
        (fun d => d.root.texts) = some [] ∧
    (((Template.ofSource none).processDocument referringDocument).outcome
        ((.str "y", .str "Y") :: oneItem)).1.toOption.map (fun d => d.root.texts) = some ["Y"] := by
  have hexpressions : (referringDocument.root.attributes.flatMap fun a => a.expressionsIn a.value)
      = ["xs", "a/y"] := by decide +kernel
  refine ⟨?_, by decide +kernel, by decide +kernel⟩
  rw [hexpressions]
  refine List.forall_mem_cons.mpr ⟨⟨by decide +kernel, ?_⟩,
    List.forall_mem_singleton.mpr ⟨by decide +kernel, ?_⟩⟩
  · rw [show Expr.namesIn "xs" = ["xs"] by decide +kernel]
    exact List.forall_mem_singleton.mpr rfl
  · rw [show Expr.namesIn "a/y" = ["a"] by decide +kernel]
    exact List.forall_mem_singleton.mpr rfl

end AttrTemplates
