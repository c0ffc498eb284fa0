import AttrTemplates.Proofs.Template.Guarded
import AttrTemplates.Proofs.Template.Fronts

/-!
# `AttrTemplates.Proofs.Template.Regime`: what processing makes of what it is given

A `Regime` says what is known of the contexts that a template is filled with: how the global
contexts of two runs are related, what local contexts and values they come across, and how they may
fail. It is sound if evaluation stays within it, and then so does processing: two runs from related
states come to the same end, with the same notes, and states that are related again.

With two global contexts this tells what a result can depend on, and with the same one on both sides
what failures there can be.

* `Run.Observes` says of a step that it stays within a regime, and `Observes.bind` is its lemma for
  sequences;
* `Directive.handle_observes` is the lemma for the directives, `handleTags_observes` the run through
  those of an element, and `processWith_observes` the processing of an element;
* `Template.process_observes` is the same for templates.
-/

set_option autoImplicit false

namespace AttrTemplates

open Xml Run

/-! ### Regimes -/

/-- What is known of two runs. -/
structure Regime where
  /-- How their global contexts are related. -/
  globals : Entries → Entries → Prop
  /-- The local contexts they come across. -/
  locals : Entries → Prop
  /-- The values they come across. -/
  value : Value → Prop
  /-- How they may fail. -/
  fails : Failure → Prop
  /-- The expressions whose values are within the regime. -/
  known : String → Prop
  /-- The names that may be bound in a local context. -/
  bindable : String → Prop

/-- Two states that are the same but for their global contexts, which are related. -/
structure RunState.Related (R : Regime) (s t : RunState) : Prop where
  same : t = { s with globals := t.globals }
  globals : R.globals s.globals t.globals

namespace RunState.Related

variable {R : Regime} {s t : RunState}

/-- Related states are both in a copy or both not. -/
theorem inCopy (h : s.Related R t) : t.inCopy = s.inCopy := by rw [h.same]

/-- The same prefixes have been made up. -/
theorem made (h : s.Related R t) : t.made = s.made := by rw [h.same]

/-- The same has been noted. -/
theorem events (h : s.Related R t) : t.events = s.events := by rw [h.same]

/-- The same notes may be added to both. -/
theorem noting (h : s.Related R t) (es : List Event) : (s.noting es).Related R (t.noting es) := by
  refine ⟨?_, h.globals⟩
  unfold RunState.noting
  rw [h.events, h.inCopy, h.made]

/-- The same prefixes may be made up in both. -/
theorem making (h : s.Related R t) {made made' : Prefixes} (hmade : made' = made) :
    RunState.Related R { s with made } { t with made := made' } := by
  refine ⟨?_, h.globals⟩
  rw [h.events, h.inCopy, hmade]

end RunState.Related

/-! ### Steps -/

namespace Run

variable {α β : Type} {R : Regime} {s t : RunState} {Q Q' : α → Prop}

/-- Two outcomes within a regime: the same result, with a property `Q`, or the same failure. -/
inductive EndWithin (R : Regime) (Q : α → Prop) :
    Except Failure α × RunState → Except Failure α × RunState → Prop
  | succeeds {a : α} {s t : RunState} : Q a → s.Related R t → EndWithin R Q (.ok a, s) (.ok a, t)
  | fails {f : Failure} {s t : RunState} : R.fails f → s.Related R t →
      EndWithin R Q (.error f, s) (.error f, t)

/-- From two states a step comes to an end within the regime. -/
def Observes (R : Regime) (Q : α → Prop) (s t : RunState) (r : Run α) : Prop :=
  EndWithin R Q (r.run.run s) (r.run.run t)

/-- Two runs that give the same result, with the property, and states that are related. -/
theorem observes_of_gives {r : Run α} {a : α} {s' t' : RunState} (hs : r.Gives s a s')
    (ht : r.Gives t a t') (ha : Q a) (hst : s'.Related R t') : Observes R Q s t r := by
  unfold Observes
  rw [show r.run.run s = _ from hs, show r.run.run t = _ from ht]
  exact .succeeds ha hst

/-- A result that has the property is given from both states. -/
theorem observes_pure {a : α} (hst : s.Related R t) (h : Q a) : Observes R Q s t (pure a) :=
  .succeeds h hst

/-- A failure that the regime allows happens from both states. -/
theorem observes_throw {f : Failure} (hst : s.Related R t) (h : R.fails f) :
    Observes R Q s t (throw f) :=
  .fails h hst

/-- A sequence stays within the regime if its first step does and what follows does. -/
theorem Observes.bind {R' : β → Prop} {r : Run α} {f : α → Run β} (h : Observes R Q s t r)
    (hf : ∀ a s' t', Q a → s'.Related R t' → Observes R R' s' t' (f a)) :
    Observes R R' s t (r >>= f) := by
  unfold Observes at h ⊢
  rw [run_bind, run_bind]
  generalize r.run.run s = x at h
  generalize r.run.run t = y at h
  cases h with
  | succeeds ha hst => exact hf _ _ _ ha hst
  | fails hf hst => exact .fails hf hst

/-- A weaker property may be asked of the result. -/
theorem Observes.mono {r : Run α} (h : Observes R Q s t r) (hQ : ∀ a, Q a → Q' a) :
    Observes R Q' s t r := by
  unfold Observes at h ⊢
  generalize r.run.run s = x at h
  generalize r.run.run t = y at h
  cases h with
  | succeeds ha hst => exact .succeeds (hQ _ ha) hst
  | fails hf hst => exact .fails hf hst

/-- What is known of the result of a step may be used. -/
theorem Observes.of_gives {r : Run α} (h : Observes R Q s t r)
    (hQ : ∀ a s', r.Gives s a s' → Q a → Q' a) : Observes R Q' s t r := by
  unfold Observes at h ⊢
  unfold Gives at hQ
  generalize r.run.run s = x at h hQ
  generalize r.run.run t = y at h
  cases h with
  | succeeds ha hst => exact .succeeds (hQ _ _ rfl ha) hst
  | fails hf hst => exact .fails hf hst

/-- A computation that only may fail, in a way that is allowed for. -/
theorem observes_lift {x : Except Failure α} (hst : s.Related R t)
    (h : ∀ f, x = .error f → R.fails f) : Observes R (x = .ok ·) s t (liftM x : Run α) := by
  cases x with
  | error f => exact .fails (h f rfl) hst
  | ok a => exact .succeeds rfl hst

/-- A note is added to both. -/
theorem observes_note (e : Event) (hst : s.Related R t) :
    Observes R (fun _ => True) s t (note e) :=
  .succeeds trivial (hst.noting [e])

/-- A step in a copy stays within the regime if it does from where a copy begins. -/
theorem inNewCopy_observes {r : Run α} (hst : s.Related R t)
    (h : ∀ s' t', s'.Related R t' → Observes R Q s' t' r) : Observes R Q s t (inNewCopy r) := by
  have hfresh : s.inFreshCopy.Related R t.inFreshCopy := by
    refine ⟨?_, hst.globals⟩
    unfold RunState.inFreshCopy
    rw [hst.events]
  -- Behind the copy the notes are those that it has left, while the prefixes made and the copy that
  -- is worked on are those from before it.
  have hrun : ∀ u : RunState, (inNewCopy r).run.run u
      = (r >>= fun a => modify (RunState.backIn · u) >>= fun _ => pure a : Run α).run.run
          u.inFreshCopy := by
    intro u
    show (get >>= fun before => set before.inFreshCopy >>= fun _ => r >>= fun a =>
      modify (RunState.backIn · before) >>= fun _ => pure a : Run α).run.run u = _
    rw [run_bind]
    rfl
  have hr := h _ _ hfresh
  unfold Observes at hr ⊢
  rw [hrun, hrun, run_bind, run_bind]
  generalize r.run.run s.inFreshCopy = x at hr
  generalize r.run.run t.inFreshCopy = y at hr
  cases hr with
  | succeeds ha hst' =>
    refine .succeeds ha ⟨?_, hst'.globals⟩
    dsimp only [RunState.backIn]
    rw [hst'.events, hst.made, hst.inCopy]
  | fails hf hst' => exact .fails hf hst'

end Run

/-! ### Sound regimes -/

namespace Regime

/-- In a regime where every failure is allowed for, texts need not be legal. -/
def Lenient (R : Regime) : Prop := ∀ f, R.fails f

/-- Whether the outcome of a computation is within the regime: a value with a property, or a failure
that is allowed for. -/
def Settled {α : Type} (R : Regime) (Q : α → Prop) : Except Failure α → Prop
  | .ok a => Q a
  | .error f => R.fails f

variable {α : Type} {R : Regime} {Q : α → Prop}

/-- What is settled fails only as the regime allows. -/
theorem Settled.fails {x : Except Failure α} (h : R.Settled Q x) :
    ∀ f, x = .error f → R.fails f := by
  rintro f rfl
  exact h

/-- What is settled has the property where it has a result. -/
theorem Settled.ok {x : Except Failure α} (h : R.Settled Q x) : ∀ a, x = .ok a → Q a := by
  rintro a rfl
  exact h

/-- A regime that evaluation and what is made of its values stay within. -/
structure Sound (R : Regime) (ev : Expr.Evaluator) : Prop where
  valueIn : ∀ {e : String} {locals g₁ g₂ : Entries}, R.known e → R.locals locals →
    R.globals g₁ g₂ → ev.valueIn locals g₁ e = ev.valueIn locals g₂ e ∧
      R.Settled R.value (ev.valueIn locals g₁ e).1
  bindGlobal : ∀ {g₁ g₂ : Entries} (n : String) {v : Value}, R.globals g₁ g₂ → R.value v →
    R.globals (g₁.bind n v) (g₂.bind n v)
  bindLocal : ∀ {locals : Entries} {n : String} {v : Value}, R.bindable n → R.locals locals →
    R.value v → R.locals (locals.bind n v)
  loops : ∀ {locals : Entries}, R.locals locals → R.Settled (fun loops =>
    ∀ (name : String) (item : Value) (state : LoopState), name.toList.all isVariableChar = true →
      R.value item → R.locals (loopContext locals loops name item state)) (enclosingLoops locals)
  items : ∀ {v : Value} {items : List Value}, R.value v → v.items? = some items →
    ∀ item ∈ items, R.value item
  written : ∀ {v : Value}, R.value v →
    R.Settled (fun text => R.Lenient ∨ checkText text = .ok ()) v.written
  fragment : ∀ {v : Value}, R.value v →
    R.Settled (fun items => R.Lenient ∨ ∀ item ∈ items, item.Allowed) (fragment v)
  own : ∀ f : Failure, f.isOwn = true → R.fails f

/-- A reply within a regime: the context of an element that stays is, and a document may hold the
texts of anything else. -/
structure Meets (R : Regime) (reply : Reply) : Prop where
  locals : ∀ e locals, reply = .stays e locals → R.locals locals
  allowed : R.Lenient ∨ reply.Allowed

end Regime

section

variable {R : Regime} {s t : RunState}

/-- An expression that is known has a value within the regime, and evaluating it in related states
notes the same lookups. -/
theorem evaluateIn_observes {ev : Expr.Evaluator} (hR : R.Sound ev) {locals : Entries}
    {expression : String} (hlocals : R.locals locals) (hknown : R.known expression)
    (hst : s.Related R t) : Observes R R.value s t (evaluateIn ev locals expression) := by
  obtain ⟨hsame, hsettled⟩ := hR.valueIn hknown hlocals hst.globals
  unfold Observes
  rw [evaluateIn_run, evaluateIn_run, ← hsame]
  generalize ev.valueIn locals s.globals expression = x at hsettled
  obtain ⟨f | v, notes⟩ := x
  · exact .fails hsettled (hst.noting _)
  · exact .succeeds hsettled (hst.noting _)

/-- An argument that has the wrong form is a failure of the engine's own. -/
theorem wellFormed_fails {ev : Expr.Evaluator} (hR : R.Sound ev) {α : Type}
    {directive argument : String} {o : Option α} :
    ∀ f, wellFormed directive argument o = .error f → R.fails f := by
  intro f h
  cases o with
  | none =>
    cases h
    exact hR.own _ rfl
  | some a => cases h

/-! ### Placing -/

/-- Settling fails only for a text with characters that no document may hold, which a lenient regime
allows. -/
theorem settle_observes (scope : Scope) (self : Element) {item : Item} (hst : s.Related R t)
    (h : R.Lenient ∨ item.Allowed) : Observes R (fun _ => True) s t (item.settle scope self) := by
  -- The node and the element itself are settled in the same way, without a failure.
  have hnode : ∀ (n : Node) (tail : List Node) (origin : Origin) (outer : Scope),
      Observes R (fun _ => True) s t ((Item.node n tail origin outer).settle scope self) := by
    intro n tail origin outer
    refine observes_of_gives (settle_node_gives_iff.mpr ⟨rfl, rfl⟩)
      (settle_node_gives_iff.mpr ⟨?_, rfl⟩) trivial (hst.making ?_)
    · rw [hst.inCopy, hst.made]
    · rw [hst.inCopy, hst.made]
  cases item with
  | text u =>
    refine (observes_lift hst fun f hf => ?_).bind fun _ s' t' _ hst' => observes_pure hst' trivial
    rcases h with h | h
    · exact h f
    · rw [show checkText u = .ok () from h] at hf
      cases hf
  | node n tail origin outer => exact hnode n tail origin outer
  | itself => exact hnode self.toNode [] .here []

/-- Items are settled one after the other, and each of them is allowed. -/
theorem settleAll_observes (scope : Scope) (self : Element) {items : List Item}
    (hst : s.Related R t) (h : R.Lenient ∨ ∀ item ∈ items, item.Allowed) :
    Observes R (fun _ => True) s t (settleAll scope self items) := by
  induction items generalizing s t with
  | nil => exact observes_pure hst trivial
  | cons item items ih =>
    refine (settle_observes scope self hst (h.imp_right fun h => h _ List.mem_cons_self)).bind
      fun _ s' t' _ hst' => ?_
    refine (ih hst' (h.imp_right fun h item hitem => h item (List.mem_cons_of_mem _ hitem))).bind
      fun _ s'' t'' _ hst'' => observes_pure hst'' trivial

/-- Children are emptied out without a look at the contexts. -/
theorem emptyOut_observes (ns : List Node) (hst : s.Related R t) :
    Observes R (fun _ => True) s t (emptyOut ns) := by
  induction ns generalizing s t with
  | nil => exact observes_pure hst trivial
  | cons n ns ih =>
    refine Observes.bind (Q := fun _ => True) ?_ fun _ s' t' _ hst' => ih hst'
    exact observes_of_gives (a := ()) (gives_modify_iff.mpr rfl) (gives_modify_iff.mpr rfl) trivial
      (hst.making (by rw [hst.made]))

/-- An element is taken out without a look at the contexts, and the text in front of its content
stays. -/
theorem takeOut_observes (e : Element) (hst : s.Related R t) :
    Observes R (fun left => leadingText left.children = leadingText e.children) s t
      (takeOut e) := by
  refine observes_of_gives (takeOut_gives_iff.mpr ⟨rfl, rfl⟩)
    (takeOut_gives_iff.mpr ⟨?_, rfl⟩) ?_ (hst.making ?_)
  · rw [hst.made]
  · rw [← leadingText_unprefixedList, Element.unprefixedList_takenOut, leadingText_unprefixedList]
  · rw [hst.made]

/-- A reply is placed by settling its items. -/
theorem place_observes (scope : Scope) {reply : Reply} (hst : s.Related R t)
    (h : R.Lenient ∨ reply.Allowed) : Observes R (fun _ => True) s t (reply.place scope) := by
  cases reply with
  | stays e locals => exact observes_pure hst trivial
  | becomes left items =>
    exact (takeOut_observes left hst).bind fun _ s' t' _ hst' => settleAll_observes _ _ hst' h
  | opens left =>
    refine (takeOut_observes left hst).bind fun left' s' t' hleft hst' =>
      settleAll_observes _ _ hst' (h.imp_right fun h => ?_)
    rw [allowed_itemsOfContent_iff, hleft]
    exact h

/-- The items of an element without a parent are allowed for, if the reply is. -/
theorem Reply.Allowed.items {reply : Reply} (h : reply.Allowed) :
    ∀ item ∈ reply.items, item.Allowed := by
  cases reply with
  | stays e locals =>
    intro item hitem
    rw [List.mem_singleton.mp hitem]
    trivial
  | becomes left items =>
    intro item hitem
    obtain ⟨item', hitem', rfl⟩ := List.mem_map.mp hitem
    cases item' with
    | text u => exact h _ hitem'
    | node | itself => trivial
  | opens left => exact allowed_itemsOfContent_iff.mpr h

/-- A copy of an item holds the same text. -/
theorem Item.Allowed.ofCopy {item : Item} (h : item.Allowed) : item.ofCopy.Allowed := by
  unfold Item.ofCopy
  split
  · trivial
  · exact h

end

/-! ### Arguments -/

/-- The expressions in the argument of a directive. -/
def Directive.expressions (raw : String) : Directive → List String
  | .define => (Expr.arguments raw).filterMap fun a => (Definition.parse? a).map (·.expression)
  | .condition => [raw]
  | .repetition => ((NamedExpression.parse? isVariableChar raw).map (·.expression)).toList
  | .content | .replace => ((Insertion.parse? raw).map (·.expression)).toList
  | .attributes =>
    (Expr.arguments raw).filterMap fun a =>
      (NamedExpression.parse? isAttributeChar a).map (·.expression)
  | .omitTag => if (Text.trim raw.toList).isEmpty then [] else [raw]

/-- The names that a directive binds in the local context for good. -/
def Directive.definedNames (raw : String) : Directive → List String
  | .define =>
    ((Expr.arguments raw).filterMap Definition.parse?).filterMap fun d =>
      if d.isGlobal then none else some d.name
  | _ => []

/-- The local part of an attribute name in an assignment. -/
def localPart (name : String) : String :=
  match prefixed? name with
  | none => name
  | some (_, localName) => localName

/-- The local parts of the attribute names that a directive assigns to. -/
def Directive.assignedNames (raw : String) : Directive → List String
  | .attributes =>
    ((Expr.arguments raw).filterMap (NamedExpression.parse? isAttributeChar)).map fun a =>
      localPart a.name
  | _ => []

/-- Whether a failure says that a name cannot be the name of an attribute. -/
def Failure.isNameFault : Failure → Bool
  | .emptyTagName => true
  | .invalidAttributeName _ => true
  | _ => false

/-- In a regime where names may be at fault, attributes may be assigned to under any name. -/
def Regime.AllowsNameFaults (R : Regime) : Prop := ∀ f : Failure, f.isNameFault = true → R.fails f

/-- A regime allows for the argument of a directive. -/
structure Regime.Admits (R : Regime) (d : Directive) (raw : String) : Prop where
  known : ∀ e ∈ d.expressions raw, R.known e
  bindable : ∀ n ∈ d.definedNames raw, R.bindable n
  assignable : R.AllowsNameFaults ∨ ∀ n ∈ d.assignedNames raw, isLocalName n = true

/-! ### Directives -/

section

variable {R : Regime} {ev : Expr.Evaluator} {raw : String} {site : Site} {s t : RunState}
  (hR : R.Sound ev)
include hR

/-- By induction on the arguments: each definition adds a value within the regime, to the local
context or to both global ones. -/
theorem makeDefinitions_observes {locals : Entries} {arguments : List String}
    (hknown : ∀ argument ∈ arguments, ∀ d, Definition.parse? argument = some d →
      R.known d.expression ∧ (d.isGlobal = false → R.bindable d.name))
    (hlocals : R.locals locals) (hst : s.Related R t) :
    Observes R R.locals s t (makeDefinitions ev locals arguments) := by
  induction arguments generalizing locals s t with
  | nil => exact observes_pure hst hlocals
  | cons argument arguments ih =>
    obtain ⟨hargument, hothers⟩ := List.forall_mem_cons.mp hknown
    refine (observes_lift hst (wellFormed_fails hR)).bind fun d s₁ t₁ hd h₁ => ?_
    obtain ⟨hexpression, hname⟩ := hargument d (wellFormed_eq_ok_iff.mp hd)
    refine (evaluateIn_observes hR hlocals hexpression h₁).bind fun v s₂ t₂ hv h₂ => ?_
    -- A global definition changes both global contexts alike, a local one only the local context.
    cases hglobal : d.isGlobal with
    | true =>
      refine Observes.bind (Q := fun _ => True) ?_ fun _ s₃ t₃ _ h₃ => ih hothers hlocals h₃
      refine observes_of_gives (a := ()) (gives_modify_iff.mpr rfl) (gives_modify_iff.mpr rfl)
        trivial ⟨?_, hR.bindGlobal _ h₂.globals hv⟩
      rw [h₂.events, h₂.made, h₂.inCopy]
    | false => exact ih hothers (hR.bindLocal (hname hglobal) hlocals hv) h₂

/-- The definitions of a directive keep the site within the regime. -/
theorem define_observes (h : R.Admits .define raw) (hlocals : R.locals site.locals)
    (hst : s.Related R t) : Observes R R.Meets s t (define ev raw site) := by
  refine (makeDefinitions_observes hR (fun argument hargument d hd => ⟨?_, fun hlocal => ?_⟩)
    hlocals hst).bind fun locals s₁ t₁ hlocals h₁ => observes_pure h₁ ⟨?_, .inr trivial⟩
  · exact h.known _ (List.mem_filterMap.mpr ⟨argument, hargument, by rw [hd]; rfl⟩)
  · refine h.bindable _ (List.mem_filterMap.mpr
      ⟨d, List.mem_filterMap.mpr ⟨argument, hargument, hd⟩, ?_⟩)
    rw [hlocal]
    rfl
  · rintro _ _ ⟨⟩
    exact hlocals

/-- A condition decides by a value that is the same in both runs. -/
theorem condition_observes (h : R.Admits .condition raw) (hlocals : R.locals site.locals)
    (hst : s.Related R t) : Observes R R.Meets s t (condition ev raw site) := by
  refine (evaluateIn_observes hR hlocals (h.known _ List.mem_cons_self) hst).bind
    fun v s₁ t₁ _ h₁ => observes_pure h₁ ?_
  cases v.truth with
  | true => exact ⟨by rintro _ _ ⟨⟩; exact hlocals, .inr trivial⟩
  | false => exact ⟨(fun _ _ h => nomatch h), .inr fun _ h => nomatch h⟩

omit hR in
/-- By induction on the items: the copy for each is walked in a context that the regime allows. -/
theorem repeatFrom_observes {walk : Walk} {copy : Element} {locals loops : Entries} {name : String}
    (hcopy : ∀ context s t, R.locals context → s.Related R t →
      Observes R R.Meets s t (walk ⟨copy, [], context⟩))
    (hloops : ∀ (item : Value) (state : LoopState), R.value item →
      R.locals (loopContext locals loops name item state))
    (length index : Nat) {items : List Value} (hitems : ∀ item ∈ items, R.value item)
    (hst : s.Related R t) :
    Observes R (fun results => R.Lenient ∨ ∀ item ∈ results, item.Allowed) s t
      (repeatFrom walk copy locals loops name length index items) := by
  induction items generalizing index s t with
  | nil => exact observes_pure hst (.inr fun _ h => nomatch h)
  | cons item items ih =>
    obtain ⟨hitem, hitems⟩ := List.forall_mem_cons.mp hitems
    refine (inNewCopy_observes hst fun s' t' => hcopy _ s' t' (hloops _ _ hitem)).bind
      fun reply s₁ t₁ hreply h₁ => ?_
    refine (ih (index + 1) hitems h₁).bind fun rest s₂ t₂ hrest h₂ => observes_pure h₂ ?_
    rcases hreply.allowed with hlenient | hreply
    · exact .inl hlenient
    · refine hrest.imp_right fun hrest => List.forall_mem_append.mpr ⟨fun item hitem => ?_, hrest⟩
      obtain ⟨item', hitem', rfl⟩ := List.mem_map.mp hitem
      exact (hreply.items item' hitem').ofCopy

/-- The items of a loop are within the regime, and so is what the loop tells of itself. -/
theorem repetition_observes {walk : Walk} (h : R.Admits .repetition raw)
    (hlocals : R.locals site.locals)
    (hcopy : ∀ context s t, R.locals context → s.Related R t →
      Observes R R.Meets s t (walk ⟨site.element.standalone, [], context⟩))
    (hst : s.Related R t) : Observes R R.Meets s t (repetition ev walk raw site) := by
  have hgone : ∀ {items}, (R.Lenient ∨ ∀ item ∈ items, item.Allowed) →
      R.Meets (.becomes site.element items) := fun h => ⟨(fun _ _ h => nomatch h), h⟩
  refine (observes_lift hst (wellFormed_fails hR)).bind fun a s₁ t₁ ha h₁ => ?_
  have hknown : R.known a.expression := h.known _ (by
    unfold Directive.expressions
    rw [wellFormed_eq_ok_iff.mp ha]
    exact List.mem_cons_self)
  refine (evaluateIn_observes hR hlocals hknown h₁).bind fun v s₂ t₂ hv h₂ => ?_
  -- Nothing to repeat, something that has no items, or items for which the copies are walked.
  split
  · exact observes_pure h₂ (hgone (.inr fun _ h => nomatch h))
  · split
    · exact observes_throw h₂ (hR.own _ rfl)
    · rename_i items hitems
      refine (observes_lift h₂ (hR.loops hlocals).fails).bind fun loops s₃ t₃ hloops h₃ => ?_
      have hname : a.name.toList.all isVariableChar = true :=
        List.all_eq_true.mpr (NamedExpression.forall_name (wellFormed_eq_ok_iff.mp ha)).2
      have hcontext := fun item state => (hR.loops hlocals).ok _ hloops a.name item state hname
      exact (repeatFrom_observes hcopy hcontext _ _ (hR.items hv hitems) h₃).bind
        fun results s₄ t₄ hresults h₄ => observes_pure h₄ (hgone hresults)

/-- What is inserted is the same value in both runs, so the same items are settled. -/
theorem content_observes (h : R.Admits .content raw) (hlocals : R.locals site.locals)
    (hst : s.Related R t) : Observes R R.Meets s t (content ev raw site) := by
  have hstays : ∀ children, R.Meets (.stays { site.element with children } site.locals) :=
    fun children => ⟨by rintro _ _ ⟨⟩; exact hlocals, .inr trivial⟩
  refine (observes_lift hst (wellFormed_fails hR)).bind fun a s₁ t₁ ha h₁ => ?_
  have hknown : R.known a.expression := h.known _ (by
    unfold Directive.expressions
    rw [wellFormed_eq_ok_iff.mp ha]
    exact List.mem_cons_self)
  -- Step by step along the directive. What can fail is that the value has no markup or cannot be
  -- written, which the regime speaks about.
  refine (evaluateIn_observes hR hlocals hknown h₁).bind fun v s₂ t₂ hv h₂ => ?_
  refine (emptyOut_observes _ h₂).bind fun _ s₃ t₃ _ h₃ => ?_
  split
  · exact observes_pure h₃ (hstays _)
  · split
    · refine (observes_lift h₃ (hR.fragment hv).fails).bind fun items s₄ t₄ hitems h₄ => ?_
      exact (settleAll_observes _ _ h₄ ((hR.fragment hv).ok _ hitems)).bind
        fun children s₅ t₅ _ h₅ => observes_pure h₅ (hstays _)
    · refine (observes_lift h₃ (hR.written hv).fails).bind fun text s₄ t₄ htext h₄ => ?_
      refine (observes_lift h₄ fun f hf => ?_).bind fun _ s₅ t₅ _ h₅ => observes_pure h₅ (hstays _)
      rcases (hR.written hv).ok _ htext with hlenient | hlegal
      · exact hlenient f
      · rw [hlegal] at hf
        cases hf

/-- A replacement is the same value in both runs. -/
theorem replace_observes (h : R.Admits .replace raw) (hlocals : R.locals site.locals)
    (hst : s.Related R t) : Observes R R.Meets s t (replace ev raw site) := by
  have hgone : ∀ {items}, (R.Lenient ∨ ∀ item ∈ items, item.Allowed) →
      R.Meets (.becomes site.element items) := fun h => ⟨(fun _ _ h => nomatch h), h⟩
  refine (observes_lift hst (wellFormed_fails hR)).bind fun a s₁ t₁ ha h₁ => ?_
  have hknown : R.known a.expression := h.known _ (by
    unfold Directive.expressions
    rw [wellFormed_eq_ok_iff.mp ha]
    exact List.mem_cons_self)
  refine (evaluateIn_observes hR hlocals hknown h₁).bind fun v s₂ t₂ hv h₂ => ?_
  -- What is replaced is gone, has a fragment in its place, or a text.
  split
  · exact observes_pure h₂ (hgone (.inr fun _ h => nomatch h))
  · split
    · exact (observes_lift h₂ (hR.fragment hv).fails).bind fun items s₃ t₃ hitems h₃ =>
        observes_pure h₃ (hgone ((hR.fragment hv).ok _ hitems))
    · refine (observes_lift h₂ (hR.written hv).fails).bind fun text s₃ t₃ htext h₃ =>
        observes_pure h₃ (hgone (((hR.written hv).ok _ htext).imp_right fun hlegal => ?_))
      exact List.forall_mem_singleton.mpr hlegal

omit hR in
/-- The local part of a target is that of the name. -/
theorem localPart_of_target {scope : Scope} {name : String} {target : Option String × String}
    (h : attributeTarget scope name = .ok target) : target.2 = localPart name := by
  unfold localPart
  rcases attributeTarget_eq_ok_iff.mp h with ⟨hnone, rfl⟩ | ⟨p, uri, hsome, -, -⟩
  · rw [hnone]
  · rw [hsome]

omit hR in
/-- A name that has no target is written with an unknown prefix. -/
theorem isOwn_of_attributeTarget {scope : Scope} {name : String} {f : Failure}
    (h : attributeTarget scope name = .error f) : f.isOwn = true := by
  unfold attributeTarget at h
  split at h
  · cases h
  · dsimp only at h
    split at h
    · cases h
    · cases h
      rfl

omit hR in
/-- A name that is one is not empty. -/
theorem isEmpty_of_isLocalName {name : String} (h : isLocalName name = true) :
    name.isEmpty = false := by
  rw [Bool.eq_false_iff]
  intro hempty
  rw [String.isEmpty_iff.mp hempty] at h
  cases h

omit hR in
/-- An attribute is set unless its name or its text is turned down, as far as the regime allows
that. -/
theorem setAttribute_observes {target : Option String × String} {value : String}
    (hname : R.AllowsNameFaults ∨ isLocalName target.2 = true)
    (hvalue : R.Lenient ∨ checkText value = .ok ()) (hst : s.Related R t) :
    Observes R (fun _ => True) s t (setAttribute site target value) := by
  by_cases hset : isLocalName target.2 = true ∧ checkText value = .ok ()
  · exact observes_of_gives (setAttribute_gives_iff.mpr ⟨hset.1, hset.2, rfl, rfl⟩)
      (setAttribute_gives_iff.mpr ⟨hset.1, hset.2, by rw [hst.made], rfl⟩) trivial
      (hst.making (by rw [hst.made]))
  · -- The name is at fault, or else the value.
    obtain ⟨uri?, localName⟩ := target
    dsimp only at hname hset
    unfold setAttribute
    dsimp only
    split
    · rename_i hempty
      have hallowed : R.AllowsNameFaults := hname.resolve_right fun hlocal => by
        rw [isEmpty_of_isLocalName hlocal] at hempty
        cases hempty
      exact (observes_throw (Q := fun _ => False) hst (hallowed _ rfl)).bind fun _ _ _ h => h.elim
    · split
      · rename_i hnamed
        have hallowed : R.AllowsNameFaults := hname.resolve_right (by simpa using hnamed)
        exact (observes_throw (Q := fun _ => False) hst (hallowed _ rfl)).bind
          fun _ _ _ h => h.elim
      · rename_i hnamed
        refine (observes_lift hst fun f hf => ?_).bind fun _ s' t' hcheck _ =>
          (hset ⟨by simpa using hnamed, hcheck⟩).elim
        rcases hvalue with hlenient | hlegal
        · exact hlenient f
        · rw [hlegal] at hf
          cases hf

omit hR in
/-- An attribute is removed unless its name is turned down. -/
theorem removeAttribute_observes {e : Element} {target : Option String × String}
    (hname : R.AllowsNameFaults ∨ isLocalName target.2 = true) (hst : s.Related R t) :
    Observes R (fun _ => True) s t (liftM (removeAttribute e target) : Run Element) := by
  refine (observes_lift hst fun f hf => ?_).mono fun _ _ => trivial
  unfold removeAttribute at hf
  dsimp only at hf
  split at hf
  · rename_i hempty
    cases hf
    rcases hname with hallowed | hlocal
    · exact hallowed _ rfl
    · rw [isEmpty_of_isLocalName hlocal] at hempty
      cases hempty
  · cases hf

/-- By induction on the arguments: each value is the same in both runs, so the same attributes are
set. -/
theorem assignAttributes_observes {arguments : List String}
    (hknown : ∀ argument ∈ arguments, ∀ a, NamedExpression.parse? isAttributeChar argument = some a →
      R.known a.expression ∧ (R.AllowsNameFaults ∨ isLocalName (localPart a.name) = true))
    (hlocals : R.locals site.locals) (hst : s.Related R t) :
    Observes R (fun _ => True) s t (assignAttributes ev site arguments) := by
  obtain ⟨e, scope, locals⟩ := site
  induction arguments generalizing e s t with
  | nil => exact observes_pure hst trivial
  | cons argument arguments ih =>
    obtain ⟨hargument, hothers⟩ := List.forall_mem_cons.mp hknown
    refine (observes_lift hst (wellFormed_fails hR)).bind fun a s₁ t₁ ha h₁ => ?_
    obtain ⟨hexpression, hname⟩ := hargument a (wellFormed_eq_ok_iff.mp ha)
    refine (observes_lift h₁ fun f hf => hR.own f (isOwn_of_attributeTarget hf)).bind
      fun target s₂ t₂ htarget h₂ => ?_
    rw [← localPart_of_target htarget] at hname
    refine (evaluateIn_observes hR hlocals hexpression h₂).bind fun v s₃ t₃ hv h₃ => ?_
    split
    · have hremoved := removeAttribute_observes (R := R) (e := e) hname h₃
      exact hremoved.bind fun e' s₄ t₄ _ h₄ => ih hothers h₄ e' hlocals
    · refine (observes_lift h₃ (hR.written hv).fails).bind fun text s₄ t₄ htext h₄ => ?_
      exact (setAttribute_observes hname ((hR.written hv).ok _ htext) h₄).bind
        fun e' s₅ t₅ _ h₅ => ih hothers h₅ e' hlocals

/-- The attributes of a directive are set in both runs alike. -/
theorem attributes_observes (h : R.Admits .attributes raw) (hlocals : R.locals site.locals)
    (hst : s.Related R t) : Observes R R.Meets s t (attributes ev raw site) := by
  have hmem : ∀ argument ∈ Expr.arguments raw, ∀ a,
      NamedExpression.parse? isAttributeChar argument = some a →
        a ∈ (Expr.arguments raw).filterMap (NamedExpression.parse? isAttributeChar) :=
    fun argument hargument a ha => List.mem_filterMap.mpr ⟨argument, hargument, ha⟩
  refine (assignAttributes_observes hR (fun argument hargument a ha => ⟨?_, ?_⟩) hlocals hst).bind
    fun e s₁ t₁ _ h₁ => observes_pure h₁ ⟨by rintro _ _ ⟨⟩; exact hlocals, .inr trivial⟩
  · exact h.known _ (List.mem_filterMap.mpr ⟨argument, hargument, by rw [ha]; rfl⟩)
  · exact h.assignable.imp_right fun h =>
      h _ (List.mem_map_of_mem (hmem argument hargument a ha))

/-- Whether the tag is left out is the same in both runs, and the children are walked in both. -/
theorem omitTag_observes {walk : Walk} (h : R.Admits .omitTag raw) (hlocals : R.locals site.locals)
    (hchildren : ∀ s t, s.Related R t → Observes R (fun out => R.Lenient ∨ LegalFront out) s t
      (walkNodes walk site.innerScope site.locals site.element.children))
    (hst : s.Related R t) : Observes R R.Meets s t (omitTag ev walk raw site) := by
  -- What happens behind the decision is the same whether an expression was given or not.
  have hbehind : ∀ (keep : Bool) s t, s.Related R t → Observes R R.Meets s t
      (openUnless walk site keep) := by
    intro keep s t hst
    cases keep with
    | true => exact observes_pure hst ⟨by rintro _ _ ⟨⟩; exact hlocals, .inr trivial⟩
    | false =>
      exact (hchildren s t hst).bind fun children s₁ t₁ hfront h₁ =>
        observes_pure h₁ ⟨(fun _ _ h => nomatch h), hfront.imp_right legalFront_iff.mp⟩
  have hknown := h.known
  unfold Directive.expressions at hknown
  dsimp only at hknown
  rw [omitTag_eq]
  split
  · exact hbehind false s t hst
  · rename_i hblank
    rw [if_neg hblank] at hknown
    exact (evaluateIn_observes hR hlocals (hknown _ List.mem_cons_self) hst).bind
      fun v s₁ t₁ _ h₁ => hbehind _ s₁ t₁ h₁

/-- Directives stay within a sound regime, if what they process does. -/
theorem Directive.handle_observes {walk : Walk} {d : Directive} (h : R.Admits d raw)
    (hlocals : R.locals site.locals)
    (hcopy : d = .repetition → ∀ context s t, R.locals context → s.Related R t →
      Observes R R.Meets s t (walk ⟨site.element.standalone, [], context⟩))
    (hchildren : d = .omitTag → ∀ s t, s.Related R t →
      Observes R (fun out => R.Lenient ∨ LegalFront out) s t
        (walkNodes walk site.innerScope site.locals site.element.children))
    (hst : s.Related R t) : Observes R R.Meets s t (d.handle ev walk raw site) := by
  cases d with
  | define => exact define_observes hR h hlocals hst
  | condition => exact condition_observes hR h hlocals hst
  | repetition => exact repetition_observes hR h hlocals (hcopy rfl) hst
  | content => exact content_observes hR h hlocals hst
  | replace => exact replace_observes hR h hlocals hst
  | attributes => exact attributes_observes hR h hlocals hst
  | omitTag => exact omitTag_observes hR h hlocals (hchildren rfl) hst

end

/-! ### Processing -/

section

variable {R : Regime} {refusal : Failure} {permitted : Call → Bool} {ev : Expr.Evaluator}
  {walk : Walk} {site : Site} {s t : RunState}

/-- Nodes are walked in their order, and only elements call the walk. -/
theorem walkNodes_observes {scope : Scope} {locals : Entries} {ns : List Node}
    (hwalk : ∀ tag children, .element tag children ∈ ns → ∀ s t, s.Related R t →
      Observes R R.Meets s t (walk ⟨⟨tag, children⟩, scope, locals⟩))
    (hst : s.Related R t) :
    Observes R (fun _ => True) s t (walkNodes walk scope locals ns) := by
  induction ns generalizing s t with
  | nil => exact observes_pure hst trivial
  | cons n ns ih =>
    have hrest := fun tag children hmem => hwalk tag children (List.mem_cons_of_mem n hmem)
    cases n with
    | element tag children =>
      refine (hwalk tag children List.mem_cons_self s t hst).bind fun reply s₁ t₁ hreply h₁ => ?_
      refine (place_observes scope h₁ hreply.allowed).bind fun here s₂ t₂ _ h₂ => ?_
      exact (ih hrest h₂).bind fun rest s₃ t₃ _ h₃ => observes_pure h₃ trivial
    | comment | instruction | reference | text =>
      exact (ih hrest hst).bind fun rest s₁ t₁ _ h₁ => observes_pure h₁ trivial

/-- A directive that is refused in one run is refused in the other. -/
theorem refusing_handle_observes {Q : Reply → Prop} {d : Directive} {raw : String}
    (hrefusal : R.fails refusal)
    (hpermitted : permitted ⟨ev, d, raw, site, s.globals⟩ = permitted ⟨ev, d, raw, site, t.globals⟩)
    (h : permitted ⟨ev, d, raw, site, s.globals⟩ = true →
      Observes R Q s t (d.handle ev walk raw site))
    (hst : s.Related R t) :
    Observes R Q s t ((Language.refusing refusal permitted).handle ev walk d.tag raw site) := by
  unfold Observes
  rw [refusing_handle_run, refusing_handle_run, ← hpermitted]
  split
  · rename_i hp
    exact h hp
  · exact .fails hrefusal hst

/-- Where handling stands within a regime: at a site with a property, or done with a reply within
the regime. -/
def Regime.Stands (R : Regime) (I : Site → Prop) : Progress → Prop
  | .on here => I here
  | .done reply => R.Meets reply

/-- Some directives of an element stay within a regime if each of them does. What is known of the
element may change with what still waits. -/
theorem handleTags_observes {I : List (String × String) → Site → Prop} {ds : List Directive}
    (hstep : ∀ d ∈ ds, ∀ raw waiting site s t, I waiting site → waiting.lookup d.tag = some raw →
      s.Related R t → Observes R
        (fun reply => R.Stands (I (waiting.filter fun w => w.1 != d.tag))
          (reply.progress (site.without d))) s t
        ((Language.refusing refusal permitted).handle ev walk d.tag raw (site.without d)))
    {waiting : List (String × String)} (h : I waiting site) (hst : s.Related R t) :
    Observes R (fun p => R.Stands (I p.2) p.1) s t
      (handleTags (.refusing refusal permitted) ev walk site waiting (ds.map Directive.tag)) := by
  induction ds generalizing site waiting s t with
  | nil => exact observes_pure hst h
  -- By induction on the directives, while the site and what waits on it change.
  | cons d ds ih =>
    obtain ⟨hfirst, hothers⟩ := List.forall_mem_cons.mp hstep
    rw [List.map_cons]
    cases hlookup : waiting.lookup d.tag with
    | none =>
      rw [handleTags, hlookup]
      exact ih hothers h hst
    | some raw =>
      rw [handleTags_cons_of_waiting rfl _ hlookup]
      refine (observes_note _ hst).bind fun _ s₁ t₁ _ h₁ => ?_
      refine (hfirst raw waiting site s₁ t₁ h hlookup h₁).bind fun reply s₂ t₂ hreply h₂ => ?_
      generalize reply.progress (site.without d) = progress at hreply ⊢
      cases progress with
      | on here => exact ih hothers hreply h₂
      | done reply => exact observes_pure h₂ hreply

/-- Processing an element stays within a regime if the handling of its directives does, and the walk
through the children that it has then. -/
theorem processWith_observes {J : Site → Prop}
    (hhandled : Observes R (fun p => R.Stands J p.1) s t
      (handleTags (.refusing refusal permitted) ev walk site site.element.tag.waiting
        (Directive.all.map Directive.tag)))
    (hchildren : ∀ here, J here → R.locals here.locals ∧ ∀ s t, s.Related R t →
      Observes R (fun _ => True) s t
        (walkNodes walk here.innerScope here.locals here.element.children)) :
    Observes R R.Meets s t (processWith [.refusing refusal permitted] ev walk site) := by
  unfold processWith
  rw [handleLanguages_single rfl]
  -- First the directives are handled and what is left is reported, then the children are walked.
  refine Observes.bind (Q := R.Stands J) ?_ fun progress s₁ t₁ hstands h₁ => ?_
  · refine hhandled.bind fun p s₁ t₁ hstands h₁ => ?_
    obtain ⟨progress, left⟩ := p
    cases progress with
    | done reply => exact observes_pure h₁ hstands
    | on here =>
      dsimp only
      split
      · exact (observes_note _ h₁).bind fun _ s₂ t₂ _ h₂ => observes_pure h₂ hstands
      · exact observes_pure h₁ hstands
  · cases progress with
    | done reply => exact observes_pure h₁ hstands
    | on here =>
      obtain ⟨hlocals, hwalk⟩ := hchildren here hstands
      exact (hwalk s₁ t₁ h₁).bind fun children s₂ t₂ _ h₂ =>
        observes_pure h₂ ⟨by rintro _ _ ⟨⟩; exact hlocals, .inr trivial⟩

end

/-! ### Templates -/

/-- Within a regime, two outcomes tell the same. -/
theorem Run.Observes.outcome {α : Type} {R : Regime} {Q : α → Prop} {r : Run α} {g₁ g₂ : Entries}
    (h : Observes R Q ⟨g₁, [], 0, false⟩ ⟨g₂, [], 0, false⟩ r) :
    ((r.outcome g₁).1, (r.outcome g₁).2.2) = ((r.outcome g₂).1, (r.outcome g₂).2.2) ∧
      ∀ f, (r.outcome g₁).1 = .error f → R.fails f := by
  unfold Observes at h
  unfold Run.outcome
  generalize r.run.run ⟨g₁, [], 0, false⟩ = x at h
  generalize r.run.run ⟨g₂, [], 0, false⟩ = y at h
  cases h with
  | succeeds ha hst => exact ⟨congrArg (Prod.mk _) hst.events.symm, fun f hf => nomatch hf⟩
  | fails hf hst =>
    refine ⟨congrArg (Prod.mk _) hst.events.symm, fun f hf' => ?_⟩
    cases hf'
    exact hf

/-- Filling a template from related data comes to the same, if the processing of its root stays
within a regime. If it fails, then in a way that is allowed for, or because of its source. -/
theorem Template.process_observes {R : Regime} {refusal : Failure} {permitted : Call → Bool}
    {source : Option Source} {data₁ data₂ : Value} {g₁ g₂ : Entries}
    (hown : ∀ f : Failure, f.isOwn = true → R.fails f)
    (h₁ : data₁.entriesIfAny = .ok g₁) (h₂ : data₂.entriesIfAny = .ok g₂) (hg : R.globals g₁ g₂)
    (hroot : ∀ d root, (Template.ofSource source).parse = .ok d → d.root = Element.toNode root →
      ∀ s t, s.Related R t → Observes R R.Meets s t
        (processNode [.refusing refusal permitted] .standard maxNesting ⟨root, [], []⟩)) :
    (Template.guarded refusal permitted source).process data₁
        = (Template.guarded refusal permitted source).process data₂ ∧
      ∀ f, ((Template.guarded refusal permitted source).process data₁).1 = .error f →
        R.fails f ∨ (Template.ofSource source).parse = .error f := by
  have hrootFrom : ∀ (d : Document) (e left : Element) (items : List Item) f,
      rootFrom d e left items = .error f → R.fails f := by
    intro d e left items f h
    unfold rootFrom at h
    dsimp only at h
    split at h
    · cases h
    · cases h
      exact hown _ rfl
  -- Behind the root only the new document is put together, which fails in one way of its own.
  have hdocument : ∀ d, (Template.ofSource source).parse = .ok d → ∀ s t, s.Related R t →
      Observes R (fun _ => True) s t
        ((Template.guarded refusal permitted source).processDocument d) := by
    intro d hd s t hst
    unfold processDocument
    split
    · exact observes_pure hst trivial
    · rename_i root hfound
      refine (hroot d root hd (Node.eq_toNode hfound) s t hst).bind fun reply s' t' _ hst' => ?_
      cases reply with
      | stays e locals => exact observes_pure hst' trivial
      | becomes | opens => exact (observes_lift hst' (hrootFrom _ _ _ _)).mono fun _ _ => trivial
  have hparse : (Template.guarded refusal permitted source).parse
      = (Template.ofSource source).parse := rfl
  unfold process
  rw [hparse, h₁, h₂]
  cases hd : (Template.ofSource source).parse with
  | error f => exact ⟨rfl, fun f' hf => .inr (by cases hf; rfl)⟩
  | ok d =>
    exact (hdocument d hd ⟨g₁, [], 0, false⟩ ⟨g₂, [], 0, false⟩ ⟨rfl, hg⟩).outcome.imp_right
      fun h f hf => .inl (h f hf)


end AttrTemplates
