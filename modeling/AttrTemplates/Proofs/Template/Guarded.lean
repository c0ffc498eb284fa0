import AttrTemplates.Proofs.Template.Termination
import AttrTemplates.Template.Basic

/-!
# `AttrTemplates.Proofs.Template.Guarded`: processing in which calls are refused

Where a result is about templates that keep away from certain directives, those directives are
refused, under a failure of one's own choice. If that failure is not what processing comes to, then
nothing was refused, and the standard language itself does what the guarded one did.

* `Run.Guards` says so of two steps, and `Guards.bind` is its lemma for sequences;
* `processNode_guards` is the run, whichever calls are permitted, and `Template.guarded_process` the
  same for templates.
-/

set_option autoImplicit false

namespace AttrTemplates

open Xml Run

/-! ### Steps -/

namespace Run

variable {α β : Type} {refusal : Failure}

/-- From every state one step is refused, or comes to the outcome that another comes to. -/
def Guards (refusal : Failure) (guarded free : Run α) : Prop :=
  ∀ s, (guarded.run.run s).1 = .error refusal ∨ guarded.run.run s = free.run.run s

/-- A step guards itself. -/
theorem Guards.rfl {r : Run α} : Guards refusal r r := fun _ => .inr (Eq.refl _)

/-- A step in a sequence is refused, or the sequence goes on as the other does. -/
theorem Guards.bind {r₁ r₂ : Run α} {f₁ f₂ : α → Run β} (hr : Guards refusal r₁ r₂)
    (hf : ∀ a, Guards refusal (f₁ a) (f₂ a)) : Guards refusal (r₁ >>= f₁) (r₂ >>= f₂) := by
  intro s
  rw [run_bind, run_bind]
  rcases hr s with hrefused | hsame
  · generalize r₁.run.run s = x at hrefused
    obtain ⟨x, s'⟩ := x
    cases hrefused
    exact .inl (Eq.refl _)
  · rw [← hsame]
    generalize r₁.run.run s = x
    obtain ⟨x | a, s'⟩ := x
    · exact .inr (Eq.refl _)
    · exact hf a s'

/-- What a step that may be refused gives, the other gives. -/
theorem Guards.gives {guarded free : Run α} (h : Guards refusal guarded free) {s s' : RunState}
    {a : α} (hgives : guarded.Gives s a s') : free.Gives s a s' := by
  unfold Gives at hgives ⊢
  rcases h s with hrefused | hsame
  · rw [hgives] at hrefused
    cases hrefused
  · rw [← hsame, hgives]

/-- After a step that is the same. -/
theorem Guards.after {r : Run α} {f₁ f₂ : α → Run β} (hf : ∀ a, Guards refusal (f₁ a) (f₂ a)) :
    Guards refusal (r >>= f₁) (r >>= f₂) :=
  Guards.rfl.bind hf

/-- A guard inside a copy is one outside. -/
theorem inNewCopy_guards {r₁ r₂ : Run α} (hr : Guards refusal r₁ r₂) :
    Guards refusal (inNewCopy r₁) (inNewCopy r₂) :=
  .after fun _ => .after fun _ => hr.bind fun _ => .rfl

end Run

/-! ### Processing -/

section

variable {refusal : Failure} {permitted : Call → Bool} {ev : Expr.Evaluator} {walk₁ walk₂ : Walk}
  (hwalk : ∀ site, Guards refusal (walk₁ site) (walk₂ site))
include hwalk

/-- By induction on the nodes: each walk guards the other. -/
theorem walkNodes_guards (scope : Scope) (locals : Entries) (ns : List Node) :
    Guards refusal (walkNodes walk₁ scope locals ns) (walkNodes walk₂ scope locals ns) := by
  induction ns with
  | nil => exact .rfl
  | cons n ns ih =>
    cases n with
    | element tag children =>
      exact (hwalk _).bind fun _ => .after fun _ => ih.bind fun _ => .rfl
    | comment | instruction | reference | text => exact ih.bind fun _ => .rfl

/-- By induction on the items: each walk of a copy guards the other. -/
theorem repeatFrom_guards (copy : Element) (locals loops : Entries) (name : String)
    (length index : Nat) (items : List Value) :
    Guards refusal (repeatFrom walk₁ copy locals loops name length index items)
      (repeatFrom walk₂ copy locals loops name length index items) := by
  induction items generalizing index with
  | nil => exact .rfl
  | cons item items ih =>
    exact (inNewCopy_guards (hwalk _)).bind fun _ => (ih _).bind fun _ => .rfl

/-- A directive is guarded where its walks are. -/
theorem Directive.handle_guards (d : Directive) (raw : String) (site : Site) :
    Guards refusal (d.handle ev walk₁ raw site) (d.handle ev walk₂ raw site) := by
  cases d with
  | define | condition | content | replace | attributes => exact .rfl
  | repetition =>
    -- Only `repeat` and `omit-tag` call the walk, in the copies and on the children.
    refine .after fun a => .after fun v => ?_
    split
    · exact .rfl
    · split
      · exact .rfl
      · exact .after fun loops => (repeatFrom_guards hwalk _ _ _ _ _ _ _).bind fun _ => .rfl
  | omitTag =>
    have hbehind : ∀ keep, Guards refusal (openUnless walk₁ site keep)
        (openUnless walk₂ site keep) := by
      intro keep
      cases keep with
      | true => exact .rfl
      | false => exact (walkNodes_guards hwalk _ _ _).bind fun _ => .rfl
    simp only [Directive.handle, omitTag_eq]
    split
    · exact hbehind false
    · exact .after fun v => hbehind _

/-- A language that may refuse a call guards the standard one. -/
theorem refusing_handle_guards (tag raw : String) (site : Site) :
    Guards refusal ((Language.refusing refusal permitted).handle ev walk₁ tag raw site)
      (Language.standard.handle ev walk₂ tag raw site) := by
  unfold Language.refusing Language.standard
  dsimp only
  cases Directive.ofTag? tag with
  | none => exact .rfl
  | some d =>
    intro s
    rw [run_bind]
    show ((if permitted ⟨ev, d, raw, site, s.globals⟩ then _ else _ : Run Reply).run.run s).1 = _ ∨
      (if permitted ⟨ev, d, raw, site, s.globals⟩ then _ else _ : Run Reply).run.run s = _
    split
    · exact d.handle_guards hwalk raw site s
    · exact .inl rfl

/-- By induction on the tags: each is handled under the guard, or refused. -/
theorem handleTags_guards (tags : List String) (site : Site) (waiting : List (String × String)) :
    Guards refusal
      (handleTags (.refusing refusal permitted) ev walk₁ site waiting tags)
      (handleTags .standard ev walk₂ site waiting tags) := by
  induction tags generalizing site waiting with
  | nil => exact .rfl
  | cons tag tags ih =>
    unfold handleTags
    split
    · exact ih _ _
    · refine .after fun _ => (refusing_handle_guards hwalk _ _ _).bind fun reply => ?_
      cases reply with
      | stays e locals => exact ih _ _
      | becomes | opens => exact .rfl

/-- An element is processed under the guard. -/
theorem processWith_guards (site : Site) :
    Guards refusal (processWith [.refusing refusal permitted] ev walk₁ site)
      (processWith [.standard] ev walk₂ site) := by
  unfold processWith
  rw [handleLanguages_single rfl, handleLanguages_single rfl]
  refine Guards.bind ((handleTags_guards hwalk _ _ _).bind fun r => .rfl) fun progress => ?_
  cases progress with
  | done reply => exact .rfl
  | on here => exact (walkNodes_guards hwalk _ _ _).bind fun _ => .rfl

end

/-- Processing in which calls are refused is refused something, or comes to the outcome of the
standard language. -/
theorem processNode_guards (refusal : Failure) (permitted : Call → Bool) (ev : Expr.Evaluator)
    (fuel : Nat) (site : Site) :
    Guards refusal (processNode [.refusing refusal permitted] ev fuel site)
      (standardWalk ev fuel site) := by
  induction fuel generalizing site with
  | zero => exact .rfl
  | succ fuel ih => exact processWith_guards ih site

/-- With all calls permitted it is the standard language. -/
theorem refusing_true (refusal : Failure) :
    Language.refusing refusal (fun _ => true) = Language.standard := by
  unfold Language.refusing Language.standard
  rw [Language.mk.injEq]
  refine ⟨rfl, rfl, rfl, ?_⟩
  funext ev walk tag raw site
  cases Directive.ofTag? tag with
  | none => rfl
  | some d => rfl

/-! ### Templates -/

/-- A template in the standard language in which calls are refused that are not permitted. -/
def Template.guarded (refusal : Failure) (permitted : Call → Bool) (source : Option Source) :
    Template :=
  ⟨source, [.refusing refusal permitted], .standard⟩

/-- The document of a template was read from a source. -/
theorem Template.read_of_parse {source : Option Source} {d : Document}
    (h : (Template.ofSource source).parse = .ok d) :
    ∃ declared : Source, declared.read .namespaced = .ok d := by
  unfold Template.parse Template.ofSource at h
  cases source with
  | none => cases h
  | some source =>
    dsimp only at h
    cases hcheck : checkSource source with
    | error f =>
      rw [hcheck] at h
      cases h
    | ok =>
      rw [hcheck] at h
      cases hread : source.declared.read .namespaced with
      | error p =>
        rw [hread] at h
        cases h
      | ok d' =>
        rw [hread] at h
        cases h
        exact ⟨_, hread⟩

/-- If a refusal is not what filling a template comes to, nothing in it was refused. -/
theorem Template.guarded_process {refusal : Failure} {permitted : Call → Bool}
    {source : Option Source} {data : Value}
    (h : ((Template.guarded refusal permitted source).process data).1 ≠ .error refusal) :
    (Template.guarded refusal permitted source).process data
      = (Template.ofSource source).process data := by
  have hparse : (Template.guarded refusal permitted source).parse
      = (Template.ofSource source).parse := rfl
  -- For every document, processing it is guarded, since only the languages differ.
  have hdocument : ∀ d, Guards refusal
      ((Template.guarded refusal permitted source).processDocument d)
      ((Template.ofSource source).processDocument d) := by
    intro d
    unfold processDocument
    split
    · exact .rfl
    · exact (processNode_guards refusal permitted .standard maxNesting _).bind fun _ => .rfl
  unfold process at h ⊢
  rw [hparse] at h ⊢
  split at h
  · rfl
  · rename_i d globals _
    dsimp only [Run.outcome] at h ⊢
    -- The guarded run has not failed with the refusal, so it is the free one.
    rcases hdocument d ⟨globals, [], 0, false⟩ with hrefused | hsame
    · exact (h hrefused).elim
    · rw [hsame]

end AttrTemplates
