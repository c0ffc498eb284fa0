import AttrTemplates.Proofs.Template.Marks

/-!
# `AttrTemplates.Proofs.Template.Matching`: steps that come to the same end

Two runs can be compared not only when they go through. `Run.Matches` says of two steps that they
come to the same end, whichever it is: they succeed with results that are related, or fail with the
same failure, and either way they leave the same contexts and the same notes. Only how many prefixes
have been made up may differ, since that depends on where a document needs prefixes.

The first of the two steps may be refused something, under a failure that is agreed on. Then nothing
is said about the second.

* `Matches.bind` is the lemma for sequences, and each basic step has one of its own.
* `settleAll_matches` and `Reply.Matched.place_matches`: what is the same but for prefixes comes to
  two places with the same end.
-/

set_option autoImplicit false

namespace AttrTemplates

open Xml Run

namespace RunState

variable {s t : RunState}

/-- What the states differ in is the prefixes made up, whichever comes first. -/
theorem SameButMade.symm (h : s.SameButMade t) : t.SameButMade s := by
  unfold SameButMade at *
  rw [h]

/-- The same notes may be added to both. -/
theorem SameButMade.noting (h : s.SameButMade t) (es : List Event) :
    (s.noting es).SameButMade (t.noting es) := by
  unfold SameButMade at *
  rw [h]
  rfl

end RunState

/-! ### Steps -/

namespace Run

variable {α β γ δ : Type} {refusal : Failure} {s t : RunState} {Q Q' : α → β → Prop}

/-- Two outcomes are the same as far as results are related by `Q` and states leave the prefixes
made up aside. -/
inductive SameEnd (Q : α → β → Prop) :
    Except Failure α × RunState → Except Failure β × RunState → Prop
  | succeeds {a : α} {b : β} {s t : RunState} : Q a b → s.SameButMade t →
      SameEnd Q (.ok a, s) (.ok b, t)
  | fails (f : Failure) {s t : RunState} : s.SameButMade t → SameEnd Q (.error f, s) (.error f, t)

/-- Unless the first step is refused, the second comes to the same end. -/
def Matches (refusal : Failure) (Q : α → β → Prop) (s t : RunState) (r₁ : Run α) (r₂ : Run β) :
    Prop :=
  (r₁.run.run s).1 ≠ .error refusal → SameEnd Q (r₁.run.run s) (r₂.run.run t)

/-- Less may be asked of the results that are related. -/
theorem SameEnd.mono {x : Except Failure α × RunState} {y : Except Failure β × RunState}
    (h : SameEnd Q x y) (hQ : ∀ {a b}, Q a b → Q' a b) : SameEnd Q' x y := by
  cases h with
  | succeeds hab hst => exact .succeeds (hQ hab) hst
  | fails f hst => exact .fails f hst

/-- Two outcomes that are the same as a third are the same. -/
theorem SameEnd.of_common {x : Except Failure γ × RunState} {y : Except Failure α × RunState}
    {z : Except Failure β × RunState} {R : γ → α → Prop} {R' : γ → β → Prop}
    (hy : SameEnd R x y) (hz : SameEnd R' x z) (hQ : ∀ {c a b}, R c a → R' c b → Q a b) :
    SameEnd Q y z := by
  cases hy with
  | succeeds ha hs =>
    cases hz with
    | succeeds hb ht => exact .succeeds (hQ ha hb) (hs.symm.trans ht)
  | fails f hs =>
    cases hz with
    | fails _ ht => exact .fails f (hs.symm.trans ht)

/-- The same result in states that are the same. -/
theorem SameEnd.of_eq {x : Except Failure α} (h : s.SameButMade t) : SameEnd Eq (x, s) (x, t) := by
  cases x with
  | ok a => exact .succeeds rfl h
  | error f => exact .fails f h

/-- Two steps that go through, with related results and states that differ in prefixes only. -/
theorem matches_of_gives {a : α} {b : β} {s' t' : RunState} {r₁ : Run α} {r₂ : Run β}
    (h₁ : r₁.Gives s a s') (h₂ : r₂.Gives t b t') (hab : Q a b) (hst : s'.SameButMade t') :
    Matches refusal Q s t r₁ r₂ := by
  intro _
  rw [show r₁.run.run s = _ from h₁, show r₂.run.run t = _ from h₂]
  exact .succeeds hab hst

/-- Results that are related are given by both. -/
theorem matches_pure {a : α} {b : β} (hst : s.SameButMade t) (h : Q a b) :
    Matches refusal Q s t (pure a) (pure b) :=
  matches_of_gives rfl rfl h hst

/-- The same failure ends both. -/
theorem matches_throw (f : Failure) (hst : s.SameButMade t) :
    Matches refusal Q s t (throw f) (throw f) :=
  fun _ => .fails f hst

/-- Two sequences come to the same end if their first steps do and what follows does. -/
theorem Matches.bind {R : γ → δ → Prop} {r₁ : Run α} {r₂ : Run β} {f : α → Run γ} {g : β → Run δ}
    (h : Matches refusal Q s t r₁ r₂)
    (hf : ∀ a b s' t', Q a b → s'.SameButMade t' → Matches refusal R s' t' (f a) (g b)) :
    Matches refusal R s t (r₁ >>= f) (r₂ >>= g) := by
  intro hne
  unfold Matches at h
  rw [run_bind] at hne ⊢
  rw [run_bind]
  generalize r₁.run.run s = x at h hne
  generalize r₂.run.run t = y at h
  -- A first step that was refused would make a sequence that is refused.
  cases h (fun h => by
    obtain ⟨x, s'⟩ := x
    cases h
    exact hne rfl) with
  | succeeds hab hst => exact hf _ _ _ _ hab hst hne
  | fails f hst => exact .fails f hst

/-- Less may be asked of the results that are related. -/
theorem Matches.mono {r₁ : Run α} {r₂ : Run β} (h : Matches refusal Q s t r₁ r₂)
    (hQ : ∀ {a b}, Q a b → Q' a b) : Matches refusal Q' s t r₁ r₂ :=
  fun hne => (h hne).mono hQ

/-- What is known of a result of the first step may be used. -/
theorem Matches.of_gives {r₁ : Run α} {r₂ : Run β} (h : Matches refusal Q s t r₁ r₂)
    (hQ : ∀ {a b s'}, r₁.Gives s a s' → Q a b → Q' a b) : Matches refusal Q' s t r₁ r₂ := by
  intro hne
  have hend := h hne
  unfold Gives at hQ
  generalize r₁.run.run s = x at hend hQ
  generalize r₂.run.run t = y at hend
  cases hend with
  | succeeds hab hst => exact .succeeds (hQ rfl hab) hst
  | fails f hst => exact .fails f hst

/-- Steps that begin with the same computation, on whose result both go on. -/
theorem matches_lift_bind {x : Except Failure α} {f : α → Run γ} {g : α → Run δ}
    {R : γ → δ → Prop} (hst : s.SameButMade t)
    (h : ∀ a, x = .ok a → Matches refusal R s t (f a) (g a)) :
    Matches refusal R s t (liftM x >>= f) (liftM x >>= g) := by
  cases x with
  | error f => exact fun _ => .fails f hst
  | ok a => exact h a rfl

/-- States may be changed if they differ in prefixes only afterwards. -/
theorem matches_modify {f g : RunState → RunState} (h : (f s).SameButMade (g t)) :
    Matches refusal (fun _ _ => True) s t (modify f : Run Unit) (modify g : Run Unit) :=
  fun _ => .succeeds trivial h

/-- The same note is added by both. -/
theorem matches_note (e : Event) (hst : s.SameButMade t) :
    Matches refusal (fun _ _ => True) s t (note e) (note e) :=
  fun _ => .succeeds trivial (hst.noting [e])

/-- Steps that begin with the same evaluation, on whose value both go on. -/
theorem matches_evaluateIn_bind {ev : Expr.Evaluator} {locals : Entries} {expression : String}
    {f : Value → Run γ} {g : Value → Run δ} {R : γ → δ → Prop} (hst : s.SameButMade t)
    (h : ∀ v s' t', s'.SameButMade t' → Matches refusal R s' t' (f v) (g v)) :
    Matches refusal R s t (evaluateIn ev locals expression >>= f)
      (evaluateIn ev locals expression >>= g) := by
  have hvalue : Matches refusal Eq s t (evaluateIn ev locals expression)
      (evaluateIn ev locals expression) := by
    intro _
    unfold RunState.SameButMade at hst
    rw [hst]
    -- An evaluation reads the globals and adds to the notes, whatever else the state is.
    exact .of_eq rfl
  exact hvalue.bind fun v v' s' t' hv h' => hv ▸ h v s' t' h'

/-- Copies are processed to the same end if they are from the state in which a copy begins. -/
theorem inNewCopy_matches {r₁ : Run α} {r₂ : Run β} (hst : s.SameButMade t)
    (h : ∀ {s' t' : RunState}, s'.SameButMade t' → Matches refusal Q s' t' r₁ r₂) :
    Matches refusal Q s t (inNewCopy r₁) (inNewCopy r₂) := by
  have hfresh : s.inFreshCopy.SameButMade t.inFreshCopy := by
    unfold RunState.SameButMade at hst
    rw [hst]
    rfl
  refine Matches.bind (Q := fun x y => x = s ∧ y = t) (matches_of_gives rfl rfl ⟨rfl, rfl⟩ hst) ?_
  rintro _ _ _ _ ⟨rfl, rfl⟩ -
  refine Matches.bind (Q := fun _ _ => True) (matches_of_gives rfl rfl trivial hfresh) ?_
  refine fun _ _ _ _ _ h' => (h h').bind fun a b s' t' hab h'' => ?_
  refine (matches_modify ?_).bind fun _ _ _ _ _ h => matches_pure h hab
  -- Either document is left as it was before its copy, with the notes of the copy.
  unfold RunState.SameButMade at hst h'' ⊢
  rw [hst, h'']

end Run

/-! ### Items and replies that are the same but for prefixes -/

namespace Xml

/-- Expanding a value does not touch the prefix of its name. -/
theorem Attribute.unprefixed_expanded (a : Attribute) :
    a.expanded.unprefixed = a.unprefixed.expanded := by
  unfold Attribute.expanded Attribute.unprefixed
  split <;> rfl

mutual

/-- By recursion on the node: references in values are expanded with prefixes or without. -/
theorem Node.unprefixed_withExpansions :
    (n : Node) → n.withExpansions.unprefixed = n.unprefixed.withExpansions
  | .element tag children => by
    simp only [Node.withExpansions, Node.unprefixed, Tag.unprefixed, List.map_map,
      unprefixedList_withExpansions children, Node.element.injEq, and_true, Tag.mk.injEq, true_and]
    exact List.map_congr_left fun a _ => a.unprefixed_expanded
  | .comment .. => rfl
  | .instruction .. => rfl
  | .reference _ => rfl
  | .text _ => rfl

/-- The same for lists of nodes. -/
theorem unprefixedList_withExpansions :
    (ns : List Node) →
      unprefixedList (withExpansionsList ns) = withExpansionsList (unprefixedList ns)
  | [] => rfl
  | n :: ns => by
    rw [withExpansionsList, unprefixedList, unprefixedList, withExpansionsList,
      Node.unprefixed_withExpansions n, unprefixedList_withExpansions ns]

end

end Xml

/-- What becomes of a node where it arrives depends on where it comes from, and on its content
without prefixes. -/
theorem Origin.unprefixed_arrival (origin : Origin) (inCopy : Bool) (n : Node) :
    (origin.arrival inCopy n).unprefixed = origin.arrival inCopy n.unprefixed := by
  unfold Origin.arrival
  split
  · exact n.unprefixed_withExpansions
  · rfl

/-- An item without prefixes, wherever it comes from. -/
def Item.unprefixed : Item → Item
  | .node n tail origin _ => .node n.unprefixed (unprefixedList tail) origin []
  | item => item

/-- Items that are the same but for prefixes. None of them is the element itself. -/
structure ItemsMatched (items₁ items₂ : List Item) : Prop where
  same : items₁.map Item.unprefixed = items₂.map Item.unprefixed
  notItself : ∀ item ∈ items₁, item.isItself = false

/-- Whether an item is the element itself does not depend on prefixes. -/
theorem Item.isItself_unprefixed (item : Item) : item.unprefixed.isItself = item.isItself := by
  cases item <;> rfl

namespace ItemsMatched

variable {items₁ items₂ items₁' items₂' : List Item}

/-- No items match no items. -/
theorem nil : ItemsMatched [] [] := ⟨rfl, fun _ h => nomatch h⟩

/-- Items match themselves if none is the element itself. -/
theorem rfl (h : ∀ item ∈ items₁, item.isItself = false) : ItemsMatched items₁ items₁ :=
  ⟨Eq.refl _, h⟩

/-- Items match either way. -/
theorem symm (h : ItemsMatched items₁ items₂) : ItemsMatched items₂ items₁ := by
  refine ⟨h.same.symm, fun item hitem => ?_⟩
  have hmem := List.mem_map_of_mem (f := Item.unprefixed) hitem
  rw [← h.same] at hmem
  obtain ⟨item', hitem', hsame⟩ := List.mem_map.mp hmem
  rw [← item.isItself_unprefixed, ← hsame, item'.isItself_unprefixed]
  exact h.notItself item' hitem'

/-- Items that match may be put together. -/
theorem append (h : ItemsMatched items₁ items₂) (h' : ItemsMatched items₁' items₂') :
    ItemsMatched (items₁ ++ items₁') (items₂ ++ items₂') := by
  refine ⟨?_, List.forall_mem_append.mpr ⟨h.notItself, h'.notItself⟩⟩
  rw [List.map_append, List.map_append, h.same, h'.same]

/-- Seen from the document that was copied. -/
theorem ofCopy (h : ItemsMatched items₁ items₂) :
    ItemsMatched (items₁.map Item.ofCopy) (items₂.map Item.ofCopy) := by
  have hunprefixed : Item.unprefixed ∘ Item.ofCopy = Item.ofCopy ∘ Item.unprefixed := by
    funext item
    cases item with
    | text | itself => rfl
    | node n tail origin outer => cases origin <;> rfl
  refine ⟨?_, fun item hitem => ?_⟩
  · rw [List.map_map, List.map_map, hunprefixed, ← List.map_map, ← List.map_map, h.same]
  · obtain ⟨item', hitem', rfl⟩ := List.mem_map.mp hitem
    exact Item.ofCopy_not_itself (h.notItself item' hitem')

/-- Content that is the same but for prefixes makes such items. -/
theorem of_content (origin : Origin) (outer outer' : Scope) {ms ns : List Node}
    (h : unprefixedList ms = unprefixedList ns) :
    ItemsMatched (itemsOfContent origin outer ms) (itemsOfContent origin outer' ns) := by
  have hunprefixed : ∀ (outer : Scope) (ns : List Node),
      (itemsOfContent origin outer ns).map Item.unprefixed
        = itemsOfContent origin [] (unprefixedList ns) := by
    intro outer ns
    unfold itemsOfContent
    rw [List.map_append, List.map_map, leadingText_unprefixedList, withTails_unprefixedList,
      List.map_map]
    congr 1
    split
    · split <;> rfl
    · rfl
  refine ⟨?_, itemsOfContent_not_itself⟩
  rw [hunprefixed, hunprefixed, h]

end ItemsMatched

/-- Two replies that leave the same but for prefixes. What becomes of an element that is replaced is
left aside. -/
inductive Reply.Matched : Reply → Reply → Prop
  | stays {e₁ e₂ : Element} {locals : Entries} : e₁.toNode.unprefixed = e₂.toNode.unprefixed →
      Matched (.stays e₁ locals) (.stays e₂ locals)
  | becomes {left₁ left₂ : Element} {items₁ items₂ : List Item} : ItemsMatched items₁ items₂ →
      Matched (.becomes left₁ items₁) (.becomes left₂ items₂)
  | opens {left₁ left₂ : Element} : unprefixedList left₁.children = unprefixedList left₂.children →
      Matched (.opens left₁) (.opens left₂)

section

variable {refusal : Failure} {s t : RunState}

/-- Items that are the same but for prefixes come to their places with the same end. -/
theorem settleAll_matches {items₁ items₂ : List Item} (h : ItemsMatched items₁ items₂)
    (hst : s.SameButMade t) (scope₁ scope₂ : Scope) (self₁ self₂ : Element) :
    Matches refusal (fun ms ns => unprefixedList ms = unprefixedList ns) s t
      (settleAll scope₁ self₁ items₁) (settleAll scope₂ self₂ items₂) := by
  induction items₁ generalizing items₂ s t with
  | nil =>
    obtain rfl : items₂ = [] := List.map_eq_nil_iff.mp h.same.symm
    exact matches_pure hst rfl
  | cons item₁ items₁ ih =>
    obtain ⟨hsame, hitself⟩ := h
    obtain ⟨item₂, items₂, rfl, hitem, hitems⟩ := List.map_eq_cons_iff.mp hsame.symm
    obtain ⟨hitself, hitselves⟩ := List.forall_mem_cons.mp hitself
    refine Matches.bind (Q := fun ms ns => unprefixedList ms = unprefixedList ns) ?_
      fun here₁ here₂ s₁ t₁ hhere h₁ => (ih ⟨hitems.symm, hitselves⟩ h₁).bind
        fun rest₁ rest₂ s₂ t₂ hrest h₂ => matches_pure h₂ ?_
    · cases item₁ with
      | text u =>
        obtain rfl : item₂ = .text u := by
          cases item₂ <;> cases hitem
          rfl
        exact matches_lift_bind hst fun _ _ => matches_pure hst rfl
      | itself => cases hitself
      | node n tail origin outer =>
        cases item₂ with
        | text | itself => cases hitem
        | node n' tail' origin' outer' =>
          simp only [Item.unprefixed, Item.node.injEq, and_true] at hitem
          obtain ⟨hn, htail, rfl⟩ := hitem
          refine matches_of_gives (settle_node_gives_iff.mpr ⟨rfl, rfl⟩)
            (settle_node_gives_iff.mpr ⟨rfl, rfl⟩) ?_ ?_
          · -- Whether a node arrives from another document depends on the copy that is worked on,
            -- which is the same in both states.
            have hcopy : t.inCopy = s.inCopy := hst.calm.inCopy
            rw [unprefixedList, unprefixedList, Node.unprefixed_adoptInto,
              Node.unprefixed_adoptInto, Origin.unprefixed_arrival, Origin.unprefixed_arrival, hn,
              htail, hcopy]
          · unfold RunState.SameButMade at hst ⊢
            rw [hst]
    · rw [unprefixedList_append, unprefixedList_append, hhere, hrest]

/-- Children are emptied out in both places, whatever they are. -/
theorem emptyOut_matches (hst : s.SameButMade t) (ms ns : List Node) :
    Matches refusal (fun _ _ => True) s t (emptyOut ms) (emptyOut ns) := by
  obtain ⟨s', hms⟩ := emptyOut_succeeds s ms
  obtain ⟨t', hns⟩ := emptyOut_succeeds t ns
  exact matches_of_gives hms hns trivial
    ((emptyOut_gives hms).symm.trans (hst.trans (emptyOut_gives hns)))

/-- Elements are taken out in both places, and the content they are left with is their own. -/
theorem takeOut_matches (hst : s.SameButMade t) (e₁ e₂ : Element) :
    Matches refusal (fun left₁ left₂ =>
        unprefixedList left₁.children = unprefixedList e₁.children ∧
          unprefixedList left₂.children = unprefixedList e₂.children)
      s t (takeOut e₁) (takeOut e₂) := by
  refine matches_of_gives (takeOut_gives_iff.mpr ⟨rfl, rfl⟩) (takeOut_gives_iff.mpr ⟨rfl, rfl⟩)
    ⟨Element.unprefixedList_takenOut _ e₁, Element.unprefixedList_takenOut _ e₂⟩ ?_
  unfold RunState.SameButMade at hst ⊢
  rw [hst]

namespace Reply.Matched

variable {r₁ r₂ r₃ : Reply}

/-- Replies match either way. -/
theorem symm (h : r₁.Matched r₂) : r₂.Matched r₁ := by
  cases h with
  | stays h => exact .stays h.symm
  | becomes h => exact .becomes h.symm
  | opens h => exact .opens h.symm

/-- Replies that match a third one match each other. -/
theorem trans (h : r₁.Matched r₂) (h' : r₂.Matched r₃) : r₁.Matched r₃ := by
  cases h with
  | stays h =>
    cases h' with
    | stays h' => exact .stays (h.trans h')
  | becomes h =>
    cases h' with
    | becomes h' => exact .becomes ⟨h.same.trans h'.same, h.notItself⟩
  | opens h =>
    cases h' with
    | opens h' => exact .opens (h.trans h')

/-- As items of elements without a parent they are the same but for prefixes, too. -/
theorem items (h : r₁.Matched r₂) : ItemsMatched r₁.items r₂.items := by
  cases h with
  | stays h =>
    refine ⟨?_, List.forall_mem_singleton.mpr rfl⟩
    show [Item.node _ _ _ _] = [Item.node _ _ _ _]
    rw [h]
  | @becomes left₁ left₂ items₁ items₂ h =>
    unfold Reply.items
    dsimp only
    rw [map_resolve_of_not_itself h.notItself, map_resolve_of_not_itself h.symm.notItself]
    exact h
  | opens h => exact .of_content _ _ _ h

/-- Such replies come to their places with the same end. -/
theorem place_matches (h : r₁.Matched r₂) (hst : s.SameButMade t) (scope₁ scope₂ : Scope) :
    Matches refusal (fun ms ns => unprefixedList ms = unprefixedList ns) s t (r₁.place scope₁)
      (r₂.place scope₂) := by
  cases h with
  | stays h => exact matches_pure hst (congrArg (fun n => [n]) h)
  | becomes h =>
    exact (takeOut_matches hst _ _).bind fun _ _ _ _ _ h' => settleAll_matches h h' _ _ _ _
  | opens h =>
    refine (takeOut_matches hst _ _).bind fun left₁ left₂ _ _ hleft h' => ?_
    exact settleAll_matches (.of_content _ _ _ ((hleft.1.trans h).trans hleft.2.symm)) h' _ _ _ _

end Reply.Matched

end

end AttrTemplates
