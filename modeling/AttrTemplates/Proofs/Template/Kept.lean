import AttrTemplates.Proofs.Template.Outcomes

/-!
# `AttrTemplates.Proofs.Template.Kept`: what every step keeps

Most of what a directive does to the state is calm: it makes up prefixes and looks up paths. The
other steps are few. Directives are announced, definitions are made, what is left over is noted,
and a copy of an element has a document of its own. `KeptBySteps` is a relation between states
that all of these keep.

`KeptBySteps.of_permittedWalk` and `KeptBySteps.of_walkNodes` say that then whole runs keep it.
-/

set_option autoImplicit false

namespace AttrTemplates

open Xml Run

/-- A relation between an earlier and a later state that every step of processing keeps. -/
structure KeptBySteps (ev : Expr.Evaluator) (P : RunState → RunState → Prop) : Prop where
  calm : ∀ {s s'}, s.Calm s' → P s s'
  trans : ∀ {s t u}, P s t → P t u → P s u
  announced : ∀ (s : RunState) (site : Site) (d : Directive) (raw : String), d ≠ .define →
    P s (s.noting [site.announcement d raw])
  defined : ∀ {site : Site} {raw : String} {s : RunState} {locals locals' s'},
    (makeDefinitions ev locals (Expr.arguments raw)).Gives
      (s.noting [site.announcement .define raw]) locals' s' → P s s'
  left : ∀ (s : RunState) (site : Site) (left : List (String × String)), P s (s.leaving site left)
  copied : ∀ {s s' : RunState}, P s.inFreshCopy s' → P s (s'.backIn s)

/-! ### Calm directives -/

section

variable {ev : Expr.Evaluator} {raw : String} {site : Site} {s s' : RunState} {reply : Reply}

/-- Notes that are of lookups alone leave a state calm. -/
theorem RunState.calm_noting {notes : List Event} (h : ∀ e ∈ notes, e.isLookup = true) :
    s.Calm (s.noting notes) :=
  ⟨rfl, rfl, notes, rfl, h⟩

/-- What is put in place is found by evaluating, which notes lookups only. -/
theorem isLookup_of_inserted {locals globals : Entries} {items : List Item} {notes : List Event}
    (h : inserted ev locals globals raw = some (items, notes)) :
    ∀ e ∈ notes, e.isLookup = true := by
  obtain ⟨a, v, -, hv, -⟩ := inserted_eq_some_iff.mp h
  exact Expr.Evaluator.isLookup_of_valueIn hv

/-- Whether a tag is left out is found the same way, if it is asked at all. -/
theorem isLookup_of_omitted {locals globals : Entries} {out : Bool} {notes : List Event}
    (h : omitted ev locals globals raw = some (out, notes)) :
    ∀ e ∈ notes, e.isLookup = true := by
  unfold omitted at h
  split at h
  · cases h
    exact fun e he => nomatch he
  · split at h
    · cases h
    · rename_i hv
      cases h
      exact Expr.Evaluator.isLookup_of_valueIn hv

/-- Content is inserted calmly: a value is looked up, children are emptied out and items are
settled. -/
theorem calm_of_content (h : (content ev raw site).Gives s reply s') : s.Calm s' := by
  obtain ⟨items, notes, s₁, children, hitems, hempty, hchildren, -⟩ := content_gives_iff.mp h
  have hnoted : s.Calm (s.noting notes) := RunState.calm_noting (isLookup_of_inserted hitems)
  exact (hnoted.trans (emptyOut_gives hempty).calm).trans (settleAll_gives hchildren).2.2.calm

/-- A replacement only looks its value up, and is placed by the walk. -/
theorem calm_of_replace (h : (replace ev raw site).Gives s reply s') : s.Calm s' := by
  obtain ⟨items, notes, hitems, rfl, -⟩ := replace_gives_iff.mp h
  exact RunState.calm_noting (isLookup_of_inserted hitems)

/-- A condition only looks its value up. -/
theorem calm_of_condition (h : (condition ev raw site).Gives s reply s') : s.Calm s' := by
  obtain ⟨v, hv, -⟩ := condition_gives_iff.mp h
  exact calm_of_evaluateIn hv

/-- Attributes are set in their order, and each of them looks up a value and may make up a prefix.
-/
theorem calm_of_assignAttributes {arguments : List String} {e : Element}
    (h : (assignAttributes ev site arguments).Gives s e s') : s.Calm s' := by
  induction arguments generalizing site s with
  | nil =>
    obtain ⟨-, rfl⟩ := assignAttributes_nil_gives_iff.mp h
    exact .rfl
  | cons argument arguments ih =>
    obtain ⟨a, target, v, s₁, here, s₂, -, -, hv, hassign, hrest⟩ :=
      assignAttributes_cons_gives_iff.mp h
    -- Between the value and the other arguments an attribute was removed, set, or set with a new
    -- prefix.
    have hset : s₁.Calm s₂ := by
      split at hassign
      · obtain ⟨-, rfl⟩ := hassign
        exact .rfl
      · obtain ⟨text, -, hset⟩ := hassign
        obtain ⟨-, -, -, rfl⟩ := setAttribute_gives_iff.mp hset
        exact RunState.SameButMade.calm rfl
    exact ((calm_of_evaluateIn hv).trans hset).trans (ih hrest)

/-- The directive for attributes does what its assignments do. -/
theorem calm_of_attributes (h : (attributes ev raw site).Gives s reply s') : s.Calm s' := by
  obtain ⟨e, he, -⟩ := attributes_gives_iff.mp h
  exact calm_of_assignAttributes he

end

/-! ### Runs -/

namespace KeptBySteps

variable {permitted : Call → Bool} {ev : Expr.Evaluator} {P : RunState → RunState → Prop}
  (hP : KeptBySteps ev P) {walk : Walk} {s s' : RunState}
include hP

/-- A list of nodes is walked from left to right, so the relation is composed of what the walks and
the placing in between keep. -/
theorem of_walkNodes_of_walk
    (hwalk : ∀ {site s reply s'}, (walk site).Gives s reply s' → P s s') {scope : Scope}
    {locals : Entries} {ns out : List Node}
    (h : (walkNodes walk scope locals ns).Gives s out s') : P s s' := by
  induction ns generalizing s out with
  | nil =>
    obtain ⟨-, rfl⟩ := walkNodes_nil_gives_iff.mp h
    exact hP.calm .rfl
  | cons n ns ih =>
    -- Only elements call the walk; all other nodes are kept.
    cases n with
    | element tag children =>
      obtain ⟨reply, s₁, here, s₂, rest, hreply, hhere, hrest, -⟩ :=
        walkNodes_element_gives_iff.mp h
      have hplaced : P s₁ s₂ := hP.calm (Reply.place_gives hhere).2.2.calm
      exact hP.trans (hP.trans (hwalk hreply) hplaced) (ih hrest)
    | comment | instruction | reference | text =>
      obtain ⟨rest, hrest, -⟩ := (walkNodes_other_gives_iff rfl).mp h
      exact ih hrest

/-- Every copy is walked in a document of its own, then the loop goes on with the next item. -/
theorem of_repeatFrom (hwalk : ∀ {site s reply s'}, (walk site).Gives s reply s' → P s s')
    {copy : Element} {locals loops : Entries} {name : String} {length index : Nat}
    {items : List Value} {results : List Item}
    (h : (repeatFrom walk copy locals loops name length index items).Gives s results s') :
    P s s' := by
  induction items generalizing index s results with
  | nil =>
    obtain ⟨-, rfl⟩ := repeatFrom_nil_gives_iff.mp h
    exact hP.calm .rfl
  | cons item items ih =>
    obtain ⟨reply, s₁, rest, hreply, hrest, -⟩ := repeatFrom_cons_gives_iff.mp h
    exact hP.trans (hP.copied (hwalk hreply)) (ih hrest)

/-- A directive keeps the relation from before it is announced. -/
theorem of_handle (hwalk : ∀ {site s reply s'}, (walk site).Gives s reply s' → P s s')
    {d : Directive} {raw : String} {site here : Site} {reply : Reply}
    (h : (d.handle ev walk raw here).Gives (s.noting [site.announcement d raw]) reply s') :
    P s s' := by
  -- Announcing `define` is one step with its definitions, since the note names what they bind.
  have hannounced : d ≠ .define → P s (s.noting [site.announcement d raw]) :=
    hP.announced s site d raw
  cases d with
  | define =>
    obtain ⟨locals, hlocals, -⟩ := define_gives_iff.mp h
    exact hP.defined hlocals
  | condition => exact hP.trans (hannounced nofun) (hP.calm (calm_of_condition h))
  | repetition =>
    obtain ⟨a, v, s₁, -, hv, hrest⟩ := repetition_gives_iff.mp h
    have hevaluated := hP.trans (hannounced nofun) (hP.calm (calm_of_evaluateIn hv))
    split at hrest
    · obtain ⟨items, loops, results, -, -, hresults, -⟩ := hrest
      exact hP.trans hevaluated (hP.of_repeatFrom hwalk hresults)
    · obtain ⟨-, rfl⟩ := hrest
      exact hevaluated
  | content => exact hP.trans (hannounced nofun) (hP.calm (calm_of_content h))
  | replace => exact hP.trans (hannounced nofun) (hP.calm (calm_of_replace h))
  | attributes => exact hP.trans (hannounced nofun) (hP.calm (calm_of_attributes h))
  | omitTag =>
    obtain ⟨out, notes, hout, hrest⟩ := omitTag_gives_iff.mp h
    have hevaluated := hP.trans (hannounced nofun)
      (hP.calm (RunState.calm_noting (isLookup_of_omitted hout)))
    cases out with
    | true =>
      obtain ⟨children, hchildren, -⟩ := hrest
      exact hP.trans hevaluated (hP.of_walkNodes_of_walk hwalk hchildren)
    | false =>
      obtain ⟨-, rfl⟩ := hrest
      exact hevaluated

/-- By recursion on the directives that are left: each is announced and handled, and the site that
the next one is called with is the one it leaves. -/
theorem of_handleDirectives (hwalk : ∀ {site s reply s'}, (walk site).Gives s reply s' → P s s')
    {site : Site} {waiting : List (String × String)} {ds : List Directive}
    {r : Progress × List (String × String)}
    (h : (handleDirectives permitted ev walk site waiting ds).Gives s r s') : P s s' := by
  induction ds generalizing site waiting s with
  | nil =>
    obtain ⟨-, rfl⟩ := handleDirectives_nil_gives_iff.mp h
    exact hP.calm .rfl
  | cons d ds ih =>
    -- A directive that does not wait is passed over.
    obtain ⟨-, hrest⟩ | ⟨raw, reply, s₁, -, -, hhandle, hrest⟩ :=
      handleDirectives_cons_gives_iff.mp h
    · exact ih hrest
    · have hhandled := hP.of_handle hwalk hhandle
      cases reply with
      | stays e locals => exact hP.trans hhandled (ih hrest)
      | becomes | opens =>
        obtain ⟨-, rfl⟩ := hrest
        exact hhandled

/-- What every step keeps the processing of an element keeps. -/
theorem of_permittedWalk {fuel : Nat} {site : Site} {reply : Reply}
    (h : (permittedWalk permitted ev fuel site).Gives s reply s') : P s s' := by
  induction fuel generalizing site s reply s' with
  | zero => exact (gives_throw_iff.mp h).elim
  | succ fuel ih =>
    obtain ⟨progress, left, s₁, hdirectives, hrest⟩ := permittedWalk_succ_gives_iff.mp h
    have hhandled := hP.of_handleDirectives ih hdirectives
    -- Directives, then the note of what is left over, then the children.
    cases progress with
    | done r =>
      obtain ⟨-, rfl⟩ := hrest
      exact hhandled
    | on here =>
      obtain ⟨children, hchildren, -⟩ := hrest
      exact hP.trans (hP.trans hhandled (hP.left s₁ here left))
        (hP.of_walkNodes_of_walk ih hchildren)

/-- With the walk itself for the children, lists of nodes keep the relation as well. -/
theorem of_walkNodes {fuel : Nat} {scope : Scope} {locals : Entries} {ns out : List Node}
    (h : (walkNodes (permittedWalk permitted ev fuel) scope locals ns).Gives s out s') :
    P s s' :=
  hP.of_walkNodes_of_walk hP.of_permittedWalk h

end KeptBySteps

end AttrTemplates
