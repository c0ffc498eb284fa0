import AttrTemplates.Proofs.Expr.Failures
import AttrTemplates.Proofs.Template.Arguments
import AttrTemplates.Proofs.Template.Regime
import AttrTemplates.Proofs.Template.Repeated
import AttrTemplates.Proofs.Xml.Clean

/-!
# `AttrTemplates.Proofs.Template.Plain`: templates and plain data

Where a template is filled with plain data, all values that it comes across are plain, and all that
is inserted can be held by a document. That makes a regime, `Regime.plain`, in which a failure is
one of the engine's own or says that something is too large, with two exceptions:

* an assignment can be to a name that no attribute can have;
* the states of the loops around an element are kept in the local context under `repeat`, and a
  definition can put something in their place that cannot be read as a mapping.

`Failure.IsStray` tells the failures that come from there, and `Call.isProper` the directives that
keep away from both. `Regime.plain_sound` says that evaluation stays within the regime.
-/

set_option autoImplicit false

namespace AttrTemplates

open Xml Run

/-! ### Insertions -/

/-- A document may hold what an item brings. -/
def Item.IsClean : Item → Prop
  | .text s => isLegalText s = true
  | .node n tail _ _ => n.IsClean ∧ ∀ t ∈ tail, t.IsClean
  | .itself => True

/-- Items that bring what a document may hold. -/
abbrev AreCleanItems (items : List Item) : Prop := ∀ item ∈ items, item.IsClean

/-- A clean item may be settled. -/
theorem Item.IsClean.allowed {item : Item} (h : item.IsClean) : item.Allowed := by
  cases item with
  | text s => exact checkText_eq_ok_iff.mpr h
  | node | itself => trivial

/-- The text in front of clean nodes is legal. -/
theorem isLegalText_leadingText {ns : List Node} (h : ∀ n ∈ ns, n.IsClean) {s : String}
    (hs : leadingText ns = some s) : isLegalText s = true := by
  have htexts : ∀ t ∈ ns.takeWhile Node.isText, isLegalText t.textContent = true := by
    intro t ht
    have hlegal := (h t ((List.takeWhile_sublist _).subset ht)).isLegal
    cases t with
    | text s => exact hlegal
    | element | comment | instruction | reference => rfl
  unfold leadingText at hs
  split at hs
  · cases hs
  · cases hs
    exact isLegalText_join (List.forall_mem_map.mpr htexts)

/-- The nodes with the text behind them are among all nodes. -/
theorem mem_of_mem_withTails {ns : List Node} {p : Node × List Node} (h : p ∈ withTails ns) :
    p.1 ∈ ns ∧ ∀ t ∈ p.2, t ∈ ns := by
  induction ns with
  | nil => cases h
  | cons n ns ih =>
    have hrest : p ∈ withTails ns → p.1 ∈ n :: ns ∧ ∀ t ∈ p.2, t ∈ n :: ns := fun hp =>
      (ih hp).imp (List.mem_cons_of_mem n) fun htail t ht => List.mem_cons_of_mem n (htail t ht)
    rw [withTails] at h
    split at h
    · exact hrest h
    · rcases List.mem_cons.mp h with rfl | hp
      · refine ⟨List.mem_cons_self, fun t ht => List.mem_cons_of_mem n ?_⟩
        exact (List.takeWhile_sublist _).subset ht
      · exact hrest hp

/-- Clean content gives clean items. -/
theorem itemsOfContent_isClean (origin : Origin) (outer : Scope) {ns : List Node}
    (h : ∀ n ∈ ns, n.IsClean) : AreCleanItems (itemsOfContent origin outer ns) := by
  refine List.forall_mem_append.mpr ⟨?_, List.forall_mem_map.mpr fun p hp => ?_⟩
  · split
    · rename_i s hs
      split
      · exact fun _ hitem => by cases hitem
      · exact List.forall_mem_singleton.mpr (isLegalText_leadingText h hs)
    · exact fun _ hitem => by cases hitem
  · obtain ⟨hnode, htail⟩ := mem_of_mem_withTails hp
    exact ⟨h _ hnode, fun t ht => h t (htail t ht)⟩

/-- A text that can be read as content gives clean items, and otherwise fails as is expected. -/
theorem fragmentOfText_ends (content : String) : Ends AreCleanItems (fragmentOfText content) := by
  unfold fragmentOfText
  split
  · rename_i d hread
    have hroot := Source.isClean_root hread
    split
    · rename_i tag children helement
      rw [helement] at hroot
      exact itemsOfContent_isClean _ _ (Node.isClean_element_iff.mp hroot).2
    · rfl
  · rfl

/-- Plain data is inserted as markup that a document may hold, if it is markup at all. -/
theorem fragment_ends (v : Value) : v.isPlain = true → Ends AreCleanItems (fragment v) := by
  -- Of the cases of the recursion those about nodes and named parts are not about plain data.
  refine fragment.induct
    (fun v => v.isPlain = true → Ends AreCleanItems (fragment v))
    (fun _ => True)
    (fun vs => arePlain vs = true → Ends AreCleanItems (fragmentAll vs))
    ?element ?node ?list ?tuple ?parts ?other ?nil ?cons ?noParts ?part v
  case element =>
    intro n e _ h
    cases h
  case node =>
    intro n _ h
    cases h
  case list =>
    intro vs ih h
    rw [fragment]
    exact ih h
  case tuple =>
    intro vs ih h
    rw [fragment]
    exact ih h
  case parts =>
    intro name vs _ h
    cases h
  case other =>
    intro v hnode hlist htuple hparts h
    rw [fragment]
    · exact (v.written_ends h).bind fun s _ => fragmentOfText_ends s
    · exact hnode
    · exact hlist
    · exact htuple
    · exact hparts
  case nil =>
    intro _
    rw [fragmentAll]
    intro item hitem
    cases hitem
  case cons =>
    intro v vs ihv ihvs h
    obtain ⟨hv, hvs⟩ := Bool.and_eq_true_iff.mp h
    rw [fragmentAll]
    exact (ihv hv).bind fun here hhere => (ihvs hvs).bind fun rest hrest =>
      List.forall_mem_append.mpr ⟨hhere, hrest⟩
  case noParts => trivial
  case part => exact fun _ _ _ _ _ => trivial

/-- An insertion of plain data gives clean items, or fails as is expected. -/
theorem Insertion.items_ends (a : Insertion) {v : Value} (h : v.isPlain = true) :
    Ends AreCleanItems (a.items v) := by
  unfold Insertion.items
  split
  · exact fun _ hitem => nomatch hitem
  · split
    · exact fragment_ends v h
    · have hwritten := v.written_ends h
      cases htext : v.written with
      | error f =>
        rw [htext] at hwritten
        exact hwritten
      | ok s =>
        rw [htext] at hwritten
        exact List.forall_mem_singleton.mpr hwritten

/-- What stands in the place of a clean item is clean. -/
theorem Item.isClean_standing {item : Item} (h : item.IsClean) {self : Element}
    (hself : self.toNode.IsClean) (inCopy : Bool) : ∀ n ∈ item.standing inCopy self, n.IsClean := by
  have harrival : ∀ (n : Node) (origin : Origin), n.IsClean →
      (origin.arrival inCopy n).unprefixed.IsClean := by
    intro n origin hn
    refine Node.isClean_unprefixed_iff.mpr ?_
    unfold Origin.arrival
    split
    · exact n.isClean_withExpansions hn
    · exact hn
  cases item with
  | text s => exact List.forall_mem_singleton.mpr (Node.isClean_text h)
  | node n tail origin outer =>
    exact List.forall_mem_cons.mpr ⟨harrival n origin h.1, areClean_unprefixedList_iff.mpr h.2⟩
  | itself => exact List.forall_mem_cons.mpr ⟨harrival _ _ hself, fun _ ht => nomatch ht⟩

/-! ### Arguments -/

/-- The expressions in a legal argument are legal. -/
theorem Directive.isLegal_expressions {raw : String} (h : isLegalText raw = true)
    (d : Directive) : ∀ e ∈ d.expressions raw, isLegalText e = true := by
  have hraw : ∀ c ∈ raw.toList, isXmlChar c = true := List.all_eq_true.mp h
  have harguments := forall_arguments hraw (by decide)
  intro e he
  refine List.all_eq_true.mpr ?_
  -- What is cut out of a legal text is legal, whatever the grammar. Arguments apart from each other
  -- hold semicolons that the text had doubled, which are legal as well.
  unfold expressions at he
  cases d with
  | condition =>
    rw [List.mem_singleton.mp he]
    exact hraw
  | omitTag =>
    dsimp only at he
    split at he
    · cases he
    · rw [List.mem_singleton.mp he]
      exact hraw
  | repetition =>
    obtain ⟨a, hparse, rfl⟩ := Option.map_eq_some_iff.mp (Option.mem_toList.mp he)
    exact NamedExpression.forall_expression hraw hparse
  | content | replace =>
    obtain ⟨a, hparse, rfl⟩ := Option.map_eq_some_iff.mp (Option.mem_toList.mp he)
    exact Insertion.forall_expression hraw hparse
  | define =>
    obtain ⟨argument, hargument, hfound⟩ := List.mem_filterMap.mp he
    obtain ⟨a, hparse, rfl⟩ := Option.map_eq_some_iff.mp hfound
    exact Definition.forall_expression (harguments argument hargument) hparse
  | attributes =>
    obtain ⟨argument, hargument, hfound⟩ := List.mem_filterMap.mp he
    obtain ⟨a, hparse, rfl⟩ := Option.map_eq_some_iff.mp hfound
    exact NamedExpression.forall_expression (harguments argument hargument) hparse

/-- Whether a call keeps to proper names: it assigns to attributes whose names can be such, and
binds no value under the name that the states of loops are kept under. -/
def Call.isProper (c : Call) : Bool :=
  (c.directive.assignedNames c.raw).all isLocalName &&
    !(c.directive.definedNames c.raw).contains "repeat"

/-! ### The regime -/

/-- Whether a failure comes from a name that no attribute can have, or from plain data that is read
as the states of loops. -/
def Failure.IsStray (f : Failure) : Prop :=
  f.isNameFault = true ∨ ∃ v : Value, v.isPlain = true ∧ v.entriesIfAny = .error f

/-- The regime of plain data. Besides the failures that are to be expected there may be strays; if
all calls are proper, the states of loops can be read. -/
def Regime.plain (proper : Prop) (strays : Failure → Prop) : Regime where
  globals g₁ g₂ := g₁ = g₂ ∧ g₁.HasPlain
  locals l := l.HasPlain ∧ (proper → ∃ loops, enclosingLoops l = .ok loops)
  value v := v.isPlain = true
  fails f := f.isExpected = true ∨ strays f
  known e := isLegalText e = true
  bindable n := proper → n ≠ "repeat"

section

variable {proper : Prop} {strays : Failure → Prop}

/-- What ends with a property is settled in the regime of plain data. -/
theorem Ends.settled {α : Type} {P Q : α → Prop} {x : Except Failure α} (h : Ends P x)
    (hQ : ∀ a, P a → Q a) : (Regime.plain proper strays).Settled Q x := by
  cases x with
  | error f => exact .inl h
  | ok a => exact hQ a h

/-- A name that is not that of the loops may be bound among them. -/
theorem enclosingLoops_bind_of_ne {locals : Entries} {n : String} (hn : n ≠ "repeat") (v : Value) :
    enclosingLoops (locals.bind n v) = enclosingLoops locals := by
  unfold enclosingLoops Entries.get
  rw [Entries.get?_bind_of_ne _ _ (Ne.symm hn)]

/-- In a copy that a loop makes the states of loops can be read. -/
theorem enclosingLoops_loopContext (locals loops : Entries) (name : String) (item : Value)
    (state : LoopState) : ∃ inner, enclosingLoops (loopContext locals loops name item state)
      = .ok inner := by
  unfold enclosingLoops loopContext Entries.get
  rw [Entries.get?_bind_self]
  show ∃ inner, Value.entriesIfAny (.map (loops.bind name (.loop state))) = .ok inner
  unfold Value.entriesIfAny
  split
  · exact ⟨_, rfl⟩
  · exact ⟨_, rfl⟩

/-- Evaluation stays within plain data. -/
theorem Regime.plain_sound (hstrays : ¬proper → ∀ f : Failure, f.IsStray → strays f) :
    (Regime.plain proper strays).Sound .standard where
  valueIn {e locals g₁ g₂} hknown hlocals hglobals := by
    obtain ⟨rfl, hplain⟩ := hglobals
    exact ⟨rfl, (Expr.Evaluator.valueIn_ends hlocals.1 hplain hknown).settled fun _ hv => hv⟩
  bindGlobal n _ hglobals hv := ⟨by rw [hglobals.1], hglobals.2.bind n hv⟩
  bindLocal {locals n v} hn hlocals hv := by
    refine ⟨hlocals.1.bind n hv, fun hproper => ?_⟩
    rw [enclosingLoops_bind_of_ne (hn hproper)]
    exact hlocals.2 hproper
  loops {locals} hlocals := by
    have hrepeat := hlocals.1.get "repeat"
    -- That the loops cannot be read is a stray, which takes something else than loops bound to
    -- `repeat`. Where calls are proper this is not done.
    cases hloops : enclosingLoops locals with
    | error f =>
      refine .inr (hstrays (fun hproper => ?_) f (.inr ⟨_, hrepeat, hloops⟩))
      obtain ⟨loops, hok⟩ := hlocals.2 hproper
      rw [hok] at hloops
      cases hloops
    | ok loops =>
      intro name item state hname hitem
      have hplain := Value.areEntriesPlain_of_entriesIfAny hrepeat hloops
      have hlegal : isLegalText name = true := List.all_eq_true.mpr fun c hc => by
        rcases Bool.or_eq_true_iff.mp (List.all_eq_true.mp hname c hc) with hword | hdash
        · exact isXmlChar_of_isWord hword
        · rw [beq_iff_eq.mp hdash]
          rfl
      have hinner := Entries.areEntriesPlain_bind hplain hlegal (v := .loop state) rfl
      exact ⟨(hlocals.1.bind name hitem).bind "repeat" hinner,
        fun _ => enclosingLoops_loopContext locals loops name item state⟩
  items hv hitems := Value.isPlain_of_items? hv hitems
  written {v} hv := (v.written_ends hv).settled fun _ hs => .inr (checkText_eq_ok_iff.mpr hs)
  fragment {v} hv := (fragment_ends v hv).settled fun _ hitems =>
    .inr fun item hitem => (hitems item hitem).allowed
  own f hf := .inl (by rw [Failure.isExpected, hf]; rfl)

/-- The regime allows for legal arguments, if calls are proper where they have to be. -/
theorem Regime.plain_admits (hstrays : ¬proper → ∀ f : Failure, f.IsStray → strays f) {c : Call}
    (hlegal : isLegalText c.raw = true) (hproper : proper → c.isProper = true) :
    (Regime.plain proper strays).Admits c.directive c.raw where
  known := c.directive.isLegal_expressions hlegal
  bindable n hn h := by
    rintro rfl
    have hbinds := (Bool.and_eq_true_iff.mp (hproper h)).2
    rw [Bool.not_eq_true', List.contains_eq_mem, decide_eq_false_iff_not] at hbinds
    exact hbinds hn
  assignable := by
    by_cases h : proper
    · exact .inr (List.all_eq_true.mp (Bool.and_eq_true_iff.mp (hproper h)).1)
    · exact .inl fun f hf => .inr (hstrays h f (.inl hf))

end

end AttrTemplates
