import AttrTemplates.Proofs.Template.Outcomes

/-!
# `AttrTemplates.Proofs.Template.Within`: runs that go through elsewhere just the same

Three things play no part in a run that goes through: what has been noted before, how much more
nesting would have been allowed, and which directives that it does not handle would have failed.
One relation says all of it. `r₁.Within r₂` says that whatever `r₁` does, `r₂` does too, whatever
has been noted before, and that all either does to the notes is to add some.

* `permittedWalk_within` is the main fact, for processing with more nesting and more permitted
  directives;
* `Within.gives` and `Within.elsewhere` are the two ways to use it.
-/

set_option autoImplicit false

namespace AttrTemplates

open Xml Run

/-- A state with other notes. -/
def RunState.withNotes (s : RunState) (events : List Event) : RunState := { s with events }

namespace Run

variable {α β : Type}

/-- Whatever one step does another does too, whatever has been noted before. -/
def Within (r₁ r₂ : Run α) : Prop :=
  ∀ ⦃s a s'⦄, r₁.Gives s a s' → ∃ new, s'.events = s.events ++ new ∧
    ∀ earlier, r₂.Gives (s.withNotes earlier) a (s'.withNotes (earlier ++ new))

/-- The other step does the same from the same state. -/
theorem Within.gives {r₁ r₂ : Run α} (h : r₁.Within r₂) {s s' : RunState} {a : α}
    (hr : r₁.Gives s a s') : r₂.Gives s a s' := by
  obtain ⟨new, hnew, hgives⟩ := h hr
  have h₂ := hgives s.events
  rw [← hnew] at h₂
  exact h₂

/-- The other step does the same from a state that differs in its notes. -/
theorem Within.elsewhere {r₁ r₂ : Run α} (h : r₁.Within r₂) {s s' t : RunState} {a : α}
    (hr : r₁.Gives s a s') (ht : t = s.withNotes t.events) :
    ∃ new, s'.events = s.events ++ new ∧ r₂.Gives t a (s'.withNotes (t.events ++ new)) := by
  obtain ⟨new, hnew, hgives⟩ := h hr
  refine ⟨new, hnew, ?_⟩
  rw [ht]
  exact hgives t.events

/-- A step only adds to the notes. -/
theorem Within.grows {r₁ r₂ : Run α} (h : r₁.Within r₂) {s s' : RunState} {a : α}
    (hr : r₁.Gives s a s') : s.Grows s' := by
  obtain ⟨new, hnew, -⟩ := h hr
  exact ⟨new, hnew⟩

/-- A step that fails is within any other, since there is nothing that it gives. -/
theorem within_throw (f : Failure) (r : Run α) : (throw f : Run α).Within r := by
  intro s a s' h
  exact (gives_throw_iff.mp h).elim

/-- A step that does nothing to the notes, and does not look at them. -/
theorem within_of_silent {r : Run α}
    (h : ∀ {s a s'}, r.Gives s a s' → s'.events = s.events ∧
      ∀ earlier, r.Gives (s.withNotes earlier) a (s'.withNotes earlier)) : r.Within r := by
  intro s a s' hr
  obtain ⟨hevents, hgives⟩ := h hr
  -- Nothing is added, behind whatever was noted earlier.
  refine ⟨[], ?_, fun earlier => ?_⟩
  · rw [hevents, List.append_nil]
  · rw [List.append_nil]
    exact hgives earlier

/-- A result that is given at once is given elsewhere. -/
theorem within_pure (a : α) : (pure a : Run α).Within (pure a) := by
  refine within_of_silent fun h => ?_
  obtain ⟨rfl, rfl⟩ := gives_pure_iff.mp h
  exact ⟨rfl, fun _ => gives_pure_iff.mpr ⟨rfl, rfl⟩⟩

/-- A computation outside the run depends on nothing in the state. -/
theorem within_lift (x : Except Failure α) : (liftM x : Run α).Within (liftM x) := by
  refine within_of_silent fun h => ?_
  obtain ⟨hx, rfl⟩ := gives_lift_iff.mp h
  exact ⟨rfl, fun _ => gives_lift_iff.mpr ⟨hx, rfl⟩⟩

/-- A note is added behind whatever is there. -/
theorem within_note (e : Event) : (Run.note e).Within (Run.note e) := by
  intro s u s' h
  obtain rfl := gives_note_iff.mp h
  exact ⟨[e], rfl, fun _ => gives_note_iff.mpr rfl⟩

/-- A sequence of two steps is within another if each step is within the other's. -/
theorem Within.bind {r₁ r₂ : Run α} {f₁ f₂ : α → Run β} (hr : r₁.Within r₂)
    (hf : ∀ a, (f₁ a).Within (f₂ a)) : (r₁ >>= f₁).Within (r₂ >>= f₂) := by
  intro s b s'' h
  obtain ⟨a, s', ha, hb⟩ := gives_bind_iff.mp h
  obtain ⟨new₁, hnew₁, ha'⟩ := hr ha
  obtain ⟨new₂, hnew₂, hb'⟩ := hf a hb
  -- The second step starts behind the notes of the first.
  refine ⟨new₁ ++ new₂, ?_, fun earlier => ?_⟩
  · rw [hnew₂, hnew₁, List.append_assoc]
  · rw [← List.append_assoc]
    exact gives_bind_iff.mpr ⟨a, _, ha' earlier, hb' _⟩

/-- The lookups of an evaluation are noted, and its value depends on the two contexts alone. -/
theorem within_evaluateIn (ev : Expr.Evaluator) (locals : Entries) (expression : String) :
    (evaluateIn ev locals expression).Within (evaluateIn ev locals expression) := by
  intro s v s' h
  obtain ⟨notes, hv, rfl⟩ := evaluateIn_gives_iff.mp h
  exact ⟨notes, rfl, fun _ => evaluateIn_gives_iff.mpr ⟨notes, hv, rfl⟩⟩

end Run

/-! ### Placing -/

/-- An item is settled by its own kind, and only prefixes are made up for it. -/
theorem settle_within (scope : Scope) (self : Element) (item : Item) :
    (item.settle scope self).Within (item.settle scope self) := by
  refine within_of_silent fun h => ?_
  cases item with
  | text t =>
    obtain ⟨hcheck, rfl, rfl⟩ := settle_text_gives_iff.mp h
    exact ⟨rfl, fun _ => settle_text_gives_iff.mpr ⟨hcheck, rfl, rfl⟩⟩
  | node n tail origin outer =>
    obtain ⟨rfl, rfl⟩ := settle_node_gives_iff.mp h
    exact ⟨rfl, fun _ => settle_node_gives_iff.mpr ⟨rfl, rfl⟩⟩
  | itself =>
    rw [settle_itself] at h
    obtain ⟨rfl, rfl⟩ := settle_node_gives_iff.mp h
    rw [settle_itself]
    exact ⟨rfl, fun _ => settle_node_gives_iff.mpr ⟨rfl, rfl⟩⟩

/-- Items are settled one after the other. -/
theorem settleAll_within (scope : Scope) (self : Element) (items : List Item) :
    (settleAll scope self items).Within (settleAll scope self items) := by
  induction items with
  | nil => exact within_pure _
  | cons item items ih =>
    exact (settle_within scope self item).bind fun _ => ih.bind fun _ => within_pure _

/-- An element is taken out without a look at the notes. -/
theorem takeOut_within (e : Element) : (takeOut e).Within (takeOut e) := by
  refine within_of_silent fun h => ?_
  obtain ⟨rfl, rfl⟩ := takeOut_gives_iff.mp h
  exact ⟨rfl, fun _ => takeOut_gives_iff.mpr ⟨rfl, rfl⟩⟩

/-- A reply is placed by settling its items. -/
theorem place_within (scope : Scope) (reply : Reply) :
    (reply.place scope).Within (reply.place scope) := by
  cases reply with
  | stays e locals => exact within_pure _
  | becomes left items => exact (takeOut_within _).bind fun _ => settleAll_within _ _ _
  | opens left => exact (takeOut_within _).bind fun _ => settleAll_within _ _ _

/-- Children are emptied out without a look at the notes. -/
theorem emptyOut_within (ns : List Node) : (emptyOut ns).Within (emptyOut ns) := by
  induction ns with
  | nil => exact within_pure _
  | cons n ns ih =>
    refine Within.bind (within_of_silent fun h => ?_) fun _ => ih
    obtain rfl := gives_modify_iff.mp h
    exact ⟨rfl, fun _ => gives_modify_iff.mpr rfl⟩

/-! ### Directives -/

section

variable {ev : Expr.Evaluator} {raw : String} {site : Site}

/-- Definitions are made in their order, each in the context that the ones before it have left. -/
theorem makeDefinitions_within (locals : Entries) (arguments : List String) :
    (makeDefinitions ev locals arguments).Within (makeDefinitions ev locals arguments) := by
  induction arguments generalizing locals with
  | nil => exact within_pure _
  | cons argument arguments ih =>
    refine (within_lift _).bind fun d => (within_evaluateIn _ _ _).bind fun v => ?_
    cases d.isGlobal with
    | true =>
      refine Within.bind (within_of_silent fun h => ?_) fun _ => ih locals
      obtain rfl := gives_modify_iff.mp h
      exact ⟨rfl, fun _ => gives_modify_iff.mpr rfl⟩
    | false => exact ih _

/-- The definitions of a directive are made, and the site goes on with its new context. -/
theorem define_within : (define ev raw site).Within (define ev raw site) :=
  (makeDefinitions_within _ _).bind fun _ => within_pure _

/-- A condition evaluates its expression and decides. -/
theorem condition_within : (condition ev raw site).Within (condition ev raw site) :=
  (within_evaluateIn _ _ _).bind fun _ => within_pure _

/-- A new copy begins with no prefixes made up, and what is noted in it is kept behind. -/
theorem inNewCopy_within {α : Type} {r₁ r₂ : Run α} (h : r₁.Within r₂) :
    (inNewCopy r₁).Within (inNewCopy r₂) := by
  intro s a s' hr
  obtain ⟨s₁, hcopy, rfl⟩ := inNewCopy_gives_iff.mp hr
  obtain ⟨new, hnew, hgives⟩ := h hcopy
  exact ⟨new, hnew, fun earlier => inNewCopy_gives_iff.mpr ⟨_, hgives earlier, rfl⟩⟩

/-- For content, a value is found, the children are emptied out and what is inserted is settled. -/
theorem content_within : (content ev raw site).Within (content ev raw site) := by
  intro s reply s' h
  obtain ⟨items, notes, s₁, children, hitems, hempty, hchildren, rfl⟩ := content_gives_iff.mp h
  obtain ⟨new₁, hnew₁, hempty'⟩ := emptyOut_within _ hempty
  obtain ⟨new₂, hnew₂, hchildren'⟩ := settleAll_within _ _ _ hchildren
  refine ⟨notes ++ new₁ ++ new₂, ?_, fun earlier => ?_⟩
  · rw [hnew₂, hnew₁, RunState.noting_events, List.append_assoc, List.append_assoc,
      List.append_assoc]
  · rw [← List.append_assoc, ← List.append_assoc]
    exact content_gives_iff.mpr
      ⟨items, notes, _, children, hitems, hempty' _, hchildren' _, rfl⟩

/-- A replacement is found like content, and left to the walk to be placed. -/
theorem replace_within : (replace ev raw site).Within (replace ev raw site) := by
  intro s reply s' h
  obtain ⟨items, notes, hitems, rfl, rfl⟩ := replace_gives_iff.mp h
  exact ⟨notes, rfl, fun _ => replace_gives_iff.mpr ⟨items, notes, hitems, rfl, rfl⟩⟩

/-- An attribute is set with a name that the scope at the site resolves. -/
theorem setAttribute_within (target : Option String × String) (value : String) :
    (setAttribute site target value).Within (setAttribute site target value) := by
  refine within_of_silent fun h => ?_
  obtain ⟨hname, hcheck, rfl, rfl⟩ := setAttribute_gives_iff.mp h
  exact ⟨rfl, fun _ => setAttribute_gives_iff.mpr ⟨hname, hcheck, rfl, rfl⟩⟩

/-- Attributes are set in their order, by induction on the arguments. -/
theorem assignAttributes_within (arguments : List String) (site : Site) :
    (assignAttributes ev site arguments).Within (assignAttributes ev site arguments) := by
  induction arguments generalizing site with
  | nil => exact within_pure _
  | cons argument arguments ih =>
    refine (within_lift _).bind fun a => (within_lift _).bind fun target =>
      (within_evaluateIn _ _ _).bind fun v => ?_
    cases v.isUndefined with
    | true => exact (within_lift _).bind fun _ => ih _
    | false =>
      exact (within_lift _).bind fun _ => (setAttribute_within _ _).bind fun _ => ih _

/-- The directive for attributes does what its assignments do. -/
theorem attributes_within : (attributes ev raw site).Within (attributes ev raw site) :=
  (assignAttributes_within _ _).bind fun _ => within_pure _

/-! ### Directives that process other elements -/

variable {walk₁ walk₂ : Walk}

/-- Nodes are walked in their order, and each walk is within the other. -/
theorem walkNodes_within (hwalk : ∀ site, (walk₁ site).Within (walk₂ site)) (scope : Scope)
    (locals : Entries) (ns : List Node) :
    (walkNodes walk₁ scope locals ns).Within (walkNodes walk₂ scope locals ns) := by
  induction ns with
  | nil => exact within_pure _
  | cons n ns ih =>
    cases n with
    | element tag children =>
      exact (hwalk _).bind fun _ => (place_within _ _).bind fun _ => ih.bind fun _ =>
        within_pure _
    | comment | instruction | reference | text => exact ih.bind fun _ => within_pure _

/-- The items of a loop are taken in their order, and each copy is walked in a document of its own.
-/
theorem repeatFrom_within (hwalk : ∀ site, (walk₁ site).Within (walk₂ site)) (copy : Element)
    (locals loops : Entries) (name : String) (length index : Nat) (items : List Value) :
    (repeatFrom walk₁ copy locals loops name length index items).Within
      (repeatFrom walk₂ copy locals loops name length index items) := by
  induction items generalizing index with
  | nil => exact within_pure _
  | cons item items ih =>
    exact (inNewCopy_within (hwalk _)).bind fun _ => (ih _).bind fun _ => within_pure _

/-- A loop finds its items and hands them on to the walks of its copies. -/
theorem repetition_within (hwalk : ∀ site, (walk₁ site).Within (walk₂ site)) :
    (repetition ev walk₁ raw site).Within (repetition ev walk₂ raw site) := by
  refine (within_lift _).bind fun a => (within_evaluateIn _ _ _).bind fun v => ?_
  split
  · exact within_pure _
  · split
    · exact within_throw _ _
    · exact (within_lift _).bind fun _ => (repeatFrom_within hwalk _ _ _ _ _ _ _).bind fun _ =>
        within_pure _

/-- A tag is left out or not, and the children are walked in either case. -/
theorem omitTag_within (hwalk : ∀ site, (walk₁ site).Within (walk₂ site)) :
    (omitTag ev walk₁ raw site).Within (omitTag ev walk₂ raw site) := by
  intro s reply s' h
  obtain ⟨out, notes, hout, h⟩ := omitTag_gives_iff.mp h
  cases out with
  | false =>
    obtain ⟨rfl, rfl⟩ := h
    exact ⟨notes, rfl, fun _ => omitTag_gives_iff.mpr ⟨false, notes, hout, rfl, rfl⟩⟩
  | true =>
    obtain ⟨children, hchildren, rfl⟩ := h
    obtain ⟨new, hnew, hchildren'⟩ := walkNodes_within hwalk _ _ _ hchildren
    refine ⟨notes ++ new, ?_, fun earlier => ?_⟩
    · rw [hnew, RunState.noting_events, List.append_assoc]
    · rw [← List.append_assoc]
      exact omitTag_gives_iff.mpr ⟨true, notes, hout, children, hchildren' _, rfl⟩

/-- Every directive is within itself where the walks that it calls are. -/
theorem Directive.handle_within (hwalk : ∀ site, (walk₁ site).Within (walk₂ site))
    (d : Directive) : (d.handle ev walk₁ raw site).Within (d.handle ev walk₂ raw site) := by
  cases d with
  | define => exact define_within
  | condition => exact condition_within
  | repetition => exact repetition_within hwalk
  | content => exact content_within
  | replace => exact replace_within
  | attributes => exact attributes_within
  | omitTag => exact omitTag_within hwalk

end

/-! ### Processing -/

section

variable {permitted₁ permitted₂ : Call → Bool} {ev : Expr.Evaluator}

/-- A directive that the first language permits is permitted by the second, so it is handled by
both. -/
theorem permitting_handle_within (hpermitted : ∀ c, permitted₁ c = true → permitted₂ c = true)
    {walk₁ walk₂ : Walk} (hwalk : ∀ site, (walk₁ site).Within (walk₂ site)) (tag raw : String)
    (site : Site) :
    ((Language.permitting permitted₁).handle ev walk₁ tag raw site).Within
      ((Language.permitting permitted₂).handle ev walk₂ tag raw site) := by
  intro s reply s' h
  cases htag : Directive.ofTag? tag with
  | none =>
    simp only [Language.permitting, htag] at h
    exact (gives_throw_iff.mp h).elim
  | some d =>
    obtain rfl : tag = d.tag := by
      have hfound := List.find?_some htag
      exact (beq_iff_eq.mp hfound).symm
    obtain ⟨hp, h⟩ := permitting_handle_gives_iff.mp h
    obtain ⟨new, hnew, hgives⟩ := d.handle_within hwalk h
    exact ⟨new, hnew, fun earlier =>
      permitting_handle_gives_iff.mpr ⟨hpermitted _ hp, hgives earlier⟩⟩

/-- The directives of an element are handled in their order, with the site that each of them leaves.
-/
theorem handleTags_within (hpermitted : ∀ c, permitted₁ c = true → permitted₂ c = true)
    {walk₁ walk₂ : Walk} (hwalk : ∀ site, (walk₁ site).Within (walk₂ site)) (tags : List String)
    (site : Site) (waiting : List (String × String)) :
    (handleTags (.permitting permitted₁) ev walk₁ site waiting tags).Within
      (handleTags (.permitting permitted₂) ev walk₂ site waiting tags) := by
  induction tags generalizing site waiting with
  | nil => exact within_pure _
  | cons tag tags ih =>
    unfold handleTags
    split
    · exact ih _ _
    · refine (within_note _).bind fun _ =>
        (permitting_handle_within hpermitted hwalk _ _ _).bind fun reply => ?_
      cases reply with
      | stays e locals => exact ih _ _
      | becomes | opens => exact within_pure _

/-- A run that goes through does so with more nesting allowed, with more directives permitted,
and whatever has been noted before. -/
theorem permittedWalk_within (hpermitted : ∀ c, permitted₁ c = true → permitted₂ c = true)
    {fuel₁ fuel₂ : Nat} (hfuel : fuel₁ ≤ fuel₂) (site : Site) :
    (permittedWalk permitted₁ ev fuel₁ site).Within (permittedWalk permitted₂ ev fuel₂ site) := by
  induction fuel₁ generalizing fuel₂ site with
  | zero => exact within_throw _ _
  | succ fuel₁ ih =>
    -- Where one run may nest once more so may the other.
    obtain ⟨fuel₂, rfl⟩ : ∃ n, fuel₂ = n + 1 := ⟨fuel₂ - 1, by omega⟩
    have hwalk := fun site => ih (Nat.le_of_succ_le_succ hfuel) site
    intro s reply s' h
    obtain ⟨progress, left, s₁, hdirectives, hrest⟩ := permittedWalk_succ_gives_iff.mp h
    obtain ⟨new, hnew, hdirectives'⟩ := handleTags_within hpermitted hwalk _ _ _ hdirectives
    cases progress with
    | done r =>
      obtain ⟨rfl, rfl⟩ := hrest
      exact ⟨new, hnew, fun earlier =>
        permittedWalk_succ_gives_iff.mpr ⟨_, left, _, hdirectives' earlier, rfl, rfl⟩⟩
    | on here =>
      obtain ⟨children, hchildren, rfl⟩ := hrest
      obtain ⟨unhandled, hleaving⟩ := RunState.leaving_eq here left
      rw [hleaving] at hchildren
      obtain ⟨new', hnew', hchildren'⟩ := walkNodes_within hwalk _ _ _ hchildren
      -- The notes of the directives, of what was left over, and of the children.
      refine ⟨new ++ unhandled ++ new', ?_, fun earlier => ?_⟩
      · rw [hnew', RunState.noting_events, hnew, List.append_assoc, List.append_assoc,
          List.append_assoc]
      · refine permittedWalk_succ_gives_iff.mpr
          ⟨_, left, _, hdirectives' earlier, children, ?_, rfl⟩
        rw [hleaving, ← List.append_assoc, ← List.append_assoc]
        exact hchildren' _

/-- The standard walk permits every call. -/
theorem standardWalk_eq (fuel : Nat) :
    standardWalk ev fuel = permittedWalk (fun _ => true) ev fuel := by
  unfold permittedWalk
  rw [permitting_true]

variable {fuel : Nat} {site : Site} {s s' : RunState} {reply : Reply}

/-- A run with permitted directives only is a run in the standard language. -/
theorem standardWalk_of_permitted (h : (permittedWalk permitted₁ ev fuel site).Gives s reply s') :
    (standardWalk ev fuel site).Gives s reply s' := by
  rw [standardWalk_eq]
  exact (permittedWalk_within (fun _ _ => rfl) (Nat.le_refl _) site).gives h

/-- A run in the standard language handles permitted directives only, if it goes through with no
others permitted. -/
theorem permitted_of_standardWalk (h : (standardWalk ev fuel site).Gives s reply s')
    (hpermitted : (permittedWalk permitted₁ ev fuel site).Succeeds s) :
    (permittedWalk permitted₁ ev fuel site).Gives s reply s' := by
  obtain ⟨reply₁, s₁, h₁⟩ := succeeds_iff.mp hpermitted
  obtain ⟨rfl, rfl⟩ := h.unique (standardWalk_of_permitted h₁)
  exact h₁

end

end AttrTemplates
