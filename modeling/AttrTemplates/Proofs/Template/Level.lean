import AttrTemplates.Proofs.Expr.Notes
import AttrTemplates.Proofs.Template.Placement
import AttrTemplates.Proofs.Xml.Unplaced
import AttrTemplates.Template.Basic

/-!
# `AttrTemplates.Proofs.Template.Level`: steps that are the same but for lines

Lines come into notes and reports only. Here is what it means that two sites, two replies or two
states are the same but for lines, and that steps from such states lead to the same.

* `Run.SameResult Q` relates results by `Q`, and failures that differ in their place at most.
* `Run.Abreast Q r₁ r₂` is the judgment that two steps, from states that are level, come to such
  results, and to states that are level. It is closed under sequencing (`Run.Abreast.bind`), with a
  rule for each primitive.
* `settleAll_abreast` and `Reply.Level.place_abreast`: nodes are put into their places abreast.
-/

set_option autoImplicit false

namespace AttrTemplates

open Xml

/-! ### Without lines -/

/-- A note without line. -/
def Event.unplaced : Event → Event
  | .directive uri name raw element _ => .directive uri name raw element none
  | .unhandled names uri element _ => .unhandled names uri element none
  | e => e

/-- A failure without its place in the source. -/
def Failure.unplaced : Failure → Failure
  | .malformedSource .. => .malformedSource 1 1
  | .rootReplaced root elements _ => .rootReplaced root elements none
  | f => f

/-- An item without lines. -/
def Item.unplaced : Item → Item
  | .node n tail origin outer => .node n.unplaced (unplacedList tail) origin outer
  | item => item

/-- Two sites with elements that are the same but for lines. -/
structure Site.Level (a b : Site) : Prop where
  element : a.element.unplaced = b.element.unplaced
  scope : a.scope = b.scope
  locals : a.locals = b.locals

/-- Two replies that are the same but for lines. -/
inductive Reply.Level : Reply → Reply → Prop
  | stays {e e' : Element} {locals : Entries} : e.unplaced = e'.unplaced →
      Level (.stays e locals) (.stays e' locals)
  | becomes {left left' : Element} {items items' : List Item} : left.unplaced = left'.unplaced →
      items.map Item.unplaced = items'.map Item.unplaced →
      Level (.becomes left items) (.becomes left' items')
  | opens {left left' : Element} : left.unplaced = left'.unplaced →
      Level (.opens left) (.opens left')

/-- Handling stands at the same point, but for lines. -/
inductive Progress.Level : Progress → Progress → Prop
  | on {a b : Site} : a.Level b → Level (.on a) (.on b)
  | done {reply reply' : Reply} : reply.Level reply' → Level (.done reply) (.done reply')

/-- Two states that are the same but for the lines in notes. -/
structure RunState.Level (s t : RunState) : Prop where
  globals : s.globals = t.globals
  events : s.events.map Event.unplaced = t.events.map Event.unplaced
  made : s.made = t.made
  inCopy : s.inCopy = t.inCopy

/-- Notes may be added to both that are the same but for lines. -/
theorem RunState.Level.noting {s t : RunState} (h : s.Level t) {es fs : List Event}
    (hnew : es.map Event.unplaced = fs.map Event.unplaced) :
    (s.noting es).Level (t.noting fs) := by
  refine ⟨h.globals, ?_, h.made, h.inCopy⟩
  show (s.events ++ es).map Event.unplaced = (t.events ++ fs).map Event.unplaced
  rw [List.map_append, List.map_append, h.events, hnew]

/-- The same prefixes may be made up in both. -/
theorem RunState.Level.making {s t : RunState} (h : s.Level t) {made made' : Prefixes}
    (hmade : made = made') : RunState.Level { s with made } { t with made := made' } :=
  ⟨h.globals, h.events, hmade, h.inCopy⟩

/-! ### Steps -/

namespace Run

variable {α β γ δ : Type} {Q Q' : α → β → Prop} {R : γ → δ → Prop}

/-- Results that are related by `Q`, or failures that are the same but for their places. -/
inductive SameResult (Q : α → β → Prop) : Except Failure α → Except Failure β → Prop
  | succeeds {a : α} {b : β} : Q a b → SameResult Q (.ok a) (.ok b)
  | fails {f g : Failure} : f.unplaced = g.unplaced → SameResult Q (.error f) (.error g)

/-- From states that are level two steps come to the same result, and to states that are level. -/
def Abreast (Q : α → β → Prop) (r₁ : Run α) (r₂ : Run β) : Prop :=
  ∀ ⦃s t⦄, s.Level t → SameResult Q (r₁.run.run s).1 (r₂.run.run t).1 ∧
    (r₁.run.run s).2.Level (r₂.run.run t).2

/-- Steps that succeed from all states. -/
theorem abreast_of_gives {r₁ : Run α} {r₂ : Run β}
    (h : ∀ ⦃s t⦄, s.Level t → ∃ a s' b t', r₁.Gives s a s' ∧ r₂.Gives t b t' ∧ Q a b ∧ s'.Level t') :
    Abreast Q r₁ r₂ := by
  intro s t hst
  obtain ⟨a, s', b, t', h₁, h₂, hab, hst'⟩ := h hst
  rw [show r₁.run.run s = _ from h₁, show r₂.run.run t = _ from h₂]
  exact ⟨.succeeds hab, hst'⟩

/-- Results that are related are given by both. -/
theorem abreast_pure {a : α} {b : β} (h : Q a b) : Abreast Q (pure a) (pure b) :=
  fun _ _ hst => ⟨.succeeds h, hst⟩

/-- The same failure ends both. -/
theorem abreast_throw (f : Failure) : Abreast Q (throw f) (throw f) :=
  fun _ _ hst => ⟨.fails rfl, hst⟩

/-- Related results are given by the first steps, and what follows is abreast from any such pair. -/
theorem Abreast.bind {r₁ : Run α} {r₂ : Run β} {f : α → Run γ} {g : β → Run δ}
    (h : Abreast Q r₁ r₂) (hf : ∀ a b, Q a b → Abreast R (f a) (g b)) :
    Abreast R (r₁ >>= f) (r₂ >>= g) := by
  intro s t hst
  have hfirst := h hst
  rw [run_bind, run_bind]
  generalize r₁.run.run s = x at hfirst
  generalize r₂.run.run t = y at hfirst
  obtain ⟨x, s'⟩ := x
  obtain ⟨y, t'⟩ := y
  obtain ⟨hxy, hst'⟩ := hfirst
  dsimp only at hxy hst'
  -- The second steps come only after a success, and then in both cases.
  cases hxy with
  | succeeds hab => exact hf _ _ hab hst'
  | fails hfg => exact ⟨.fails hfg, hst'⟩

/-- A condition that does not speak of the state is the same for both. -/
theorem abreast_ite {c : Prop} [Decidable c] {r₁ r₁' : Run α} {r₂ r₂' : Run β}
    (h : Abreast Q r₁ r₂) (h' : Abreast Q r₁' r₂') :
    Abreast Q (if c then r₁ else r₁') (if c then r₂ else r₂') := by
  split
  · exact h
  · exact h'

/-- A check that fails does so in both cases. -/
theorem abreast_ite_throw {c : Prop} [Decidable c] {f : Failure} {g : Unit → Run α}
    {g' : Unit → Run β} (h : Abreast Q (g ()) (g' ())) :
    Abreast Q (if c then (do let x ← throw f; g x) else g ())
      (if c then (do let x ← throw f; g' x) else g' ()) :=
  abreast_ite ((abreast_throw f).bind (Q := fun _ _ => False) fun _ _ h => h.elim) h

/-- Computations that only may fail. -/
theorem abreast_lift {x : Except Failure α} {y : Except Failure β} (h : SameResult Q x y) :
    Abreast Q (liftM x) (liftM y) := by
  cases h with
  | succeeds hab => exact abreast_pure hab
  | fails hfg => exact fun s t hst => ⟨.fails hfg, hst⟩

/-- Steps that begin with the same computation, on whose result both go on. -/
theorem abreast_lift_bind {x : Except Failure α} {f : α → Run γ} {g : α → Run δ}
    (h : ∀ a, Abreast R (f a) (g a)) : Abreast R (liftM x >>= f) (liftM x >>= g) := by
  cases x with
  | error f => exact fun s t hst => ⟨.fails rfl, hst⟩
  | ok a => exact h a

/-- A look at the state gives states that are level. -/
theorem abreast_get : Abreast RunState.Level (get : Run RunState) (get : Run RunState) :=
  fun _ _ hst => ⟨.succeeds hst, hst⟩

/-- States that are level may take the place of the old ones. -/
theorem abreast_set {s t : RunState} (h : s.Level t) :
    Abreast (fun _ _ => True) (set s : Run PUnit) (set t : Run PUnit) :=
  fun _ _ _ => ⟨.succeeds trivial, h⟩

/-- Changes that keep states level may be made. -/
theorem abreast_modify {f g : RunState → RunState} (h : ∀ s t, s.Level t → (f s).Level (g t)) :
    Abreast (fun _ _ => True) (modify f : Run PUnit) (modify g : Run PUnit) :=
  fun _ _ hst => ⟨.succeeds trivial, h _ _ hst⟩

/-- Notes that are the same but for lines are added. -/
theorem abreast_note {e e' : Event} (h : e.unplaced = e'.unplaced) :
    Abreast (fun _ _ => True) (note e) (note e') :=
  fun _ _ hst => ⟨.succeeds trivial, hst.noting (congrArg (fun e => [e]) h)⟩

/-- Steps that begin with the same evaluation, on whose value both go on. -/
theorem abreast_evaluateIn_bind {ev : Expr.Evaluator} {locals : Entries} {expression : String}
    {f : Value → Run γ} {g : Value → Run δ} (h : ∀ v, Abreast R (f v) (g v)) :
    Abreast R (evaluateIn ev locals expression >>= f) (evaluateIn ev locals expression >>= g) := by
  have hvalue : Abreast Eq (evaluateIn ev locals expression) (evaluateIn ev locals expression) := by
    intro s t hst
    rw [evaluateIn_run, evaluateIn_run, hst.globals]
    refine ⟨?_, hst.noting rfl⟩
    cases (ev.valueIn locals t.globals expression).1 with
    | ok v => exact .succeeds rfl
    | error f => exact .fails rfl
  refine hvalue.bind ?_
  rintro v _ rfl
  exact h v

end Run

/-! ### Placing -/

/-- A node arrives in the same way, whatever line it comes from. -/
theorem Origin.arrival_unplaced (origin : Origin) (inCopy : Bool) (n : Node) :
    origin.arrival inCopy n.unplaced = (origin.arrival inCopy n).unplaced := by
  unfold Origin.arrival
  split
  · exact n.withExpansions_unplaced
  · rfl

/-- An item stands for the same, but for lines. -/
theorem Item.resolve_unplaced (self : Element) (item : Item) :
    item.unplaced.resolve self.unplaced = (item.resolve self).unplaced := by
  cases item <;> rfl

/-- The items that content is made of are the same but for lines. -/
theorem itemsOfContent_unplacedList (origin : Origin) (outer : Scope) (ns : List Node) :
    itemsOfContent origin outer (unplacedList ns)
      = (itemsOfContent origin outer ns).map Item.unplaced := by
  have hnodes : (withTails (unplacedList ns)).map (fun p => Item.node p.1 p.2 origin outer)
      = ((withTails ns).map fun p => Item.node p.1 p.2 origin outer).map Item.unplaced := by
    rw [withTails_unplacedList, List.map_map, List.map_map]
    rfl
  unfold itemsOfContent
  rw [List.map_append, leadingText_unplacedList]
  refine congr (congrArg _ ?_) hnodes
  cases leadingText ns with
  | none => rfl
  | some s =>
    dsimp only
    split <;> rfl

section

open Run

/-- A node is moved to its place with the same prefixes made up, and its lines go along. -/
theorem settle_node_abreast (scope : Scope) {self self' : Element} {n n' : Node}
    {tail tail' : List Node} {origin origin' : Origin} {outer outer' : Scope}
    (h : (Item.node n tail origin outer).unplaced = (Item.node n' tail' origin' outer').unplaced) :
    Abreast (fun ms ns => unplacedList ms = unplacedList ns)
      ((Item.node n tail origin outer).settle scope self)
      ((Item.node n' tail' origin' outer').settle scope self') := by
  obtain ⟨hn, htail, rfl, rfl⟩ := Item.node.inj h
  refine abreast_of_gives fun s t hst => ⟨_, _, _, _, settle_node_gives_iff.mpr ⟨rfl, rfl⟩,
    settle_node_gives_iff.mpr ⟨rfl, rfl⟩, ?_, hst.making ?_⟩
  -- What happens to the node depends on its names, on the scope and on the prefixes made so far.
  all_goals
    have harrived : (origin.arrival s.inCopy n).unplaced = (origin.arrival t.inCopy n').unplaced := by
      rw [← Origin.arrival_unplaced, hn, hst.inCopy, Origin.arrival_unplaced]
    obtain ⟨hnode, hmade⟩ := Node.adoptInto_same harrived scope s.made
  · rw [unplacedList, unplacedList, htail, hnode, hst.made]
  · rw [hmade, hst.made]

/-- An item is settled abreast, whichever kind it is of. -/
theorem settle_abreast (scope : Scope) {self self' : Element} {item item' : Item}
    (hself : self.unplaced = self'.unplaced) (hitem : item.unplaced = item'.unplaced) :
    Abreast (fun ms ns => unplacedList ms = unplacedList ns) (item.settle scope self)
      (item'.settle scope self') := by
  cases item with
  | itself =>
    cases item' with
    | itself =>
      rw [settle_itself, settle_itself]
      exact settle_node_abreast scope
        (congrArg (fun e : Element => Item.node e.toNode [] .here []) hself)
    | text | node => cases hitem
  | text u =>
    cases item' with
    | text u' =>
      cases hitem
      exact abreast_lift_bind fun _ => abreast_pure rfl
    | node | itself => cases hitem
  | node n tail origin outer =>
    cases item' with
    | text | itself => cases hitem
    | node n' tail' origin' outer' => exact settle_node_abreast scope hitem

/-- Items are settled one after the other. -/
theorem settleAll_abreast (scope : Scope) {self self' : Element} {items items' : List Item}
    (hself : self.unplaced = self'.unplaced)
    (hitems : items.map Item.unplaced = items'.map Item.unplaced) :
    Abreast (fun ms ns => unplacedList ms = unplacedList ns) (settleAll scope self items)
      (settleAll scope self' items') := by
  induction items generalizing items' with
  | nil =>
    obtain rfl : items' = [] := List.map_eq_nil_iff.mp hitems.symm
    exact abreast_pure rfl
  | cons item items ih =>
    obtain ⟨item', items', rfl, hitem, hitems⟩ := List.map_eq_cons_iff.mp hitems.symm
    refine (settle_abreast scope hself hitem.symm).bind fun here here' hhere => ?_
    refine (ih hitems.symm).bind fun rest rest' hrest => abreast_pure ?_
    rw [unplacedList_append, unplacedList_append, hhere, hrest]

/-- Children are taken out one after the other, and the same prefixes are made up for that. -/
theorem emptyOut_abreast {ms ns : List Node} (h : unplacedList ms = unplacedList ns) :
    Abreast (fun _ _ => True) (emptyOut ms) (emptyOut ns) := by
  induction ms generalizing ns with
  | nil =>
    cases ns with
    | nil => exact abreast_pure trivial
    | cons n ns => cases h
  | cons m ms ih =>
    cases ns with
    | nil => cases h
    | cons n ns =>
      obtain ⟨hmn, hrest⟩ := List.cons.inj h
      refine (abreast_modify fun s t hst => hst.making ?_).bind fun _ _ _ => ih hrest
      rw [hst.made]
      exact (Node.adoptInto_same hmn [] t.made).2

/-- An element is taken out with its lines, and the same prefixes are made up for it. -/
theorem takeOut_abreast {e e' : Element} (h : e.unplaced = e'.unplaced) :
    Abreast (fun left left' => left.unplaced = left'.unplaced) (takeOut e) (takeOut e') := by
  refine abreast_of_gives fun s t hst => ⟨_, _, _, _, takeOut_gives_iff.mpr ⟨rfl, rfl⟩,
    takeOut_gives_iff.mpr ⟨rfl, rfl⟩, ?_, hst.making ?_⟩
  · rw [(Element.takenOut_same h s.made).1, hst.made]
  · rw [(Element.takenOut_same h s.made).2, hst.made]

namespace Reply.Level

variable {reply reply' : Reply}

/-- A reply is placed by settling its items. -/
theorem place_abreast (h : reply.Level reply') (scope : Scope) :
    Abreast (fun ms ns => unplacedList ms = unplacedList ns) (reply.place scope)
      (reply'.place scope) := by
  cases h with
  | stays he => exact abreast_pure (congrArg (fun e : Element => [e.toNode]) he)
  | becomes hleft hitems =>
    exact (takeOut_abreast hleft).bind fun _ _ h => settleAll_abreast scope h hitems
  | opens hleft =>
    refine (takeOut_abreast hleft).bind fun left left' h => settleAll_abreast scope h ?_
    rw [← itemsOfContent_unplacedList, ← itemsOfContent_unplacedList]
    exact congrArg (itemsOfContent .here []) (Element.mk.inj h).2

/-- Replies that are level have items that are the same but for lines. -/
theorem items (h : reply.Level reply') :
    reply.items.map Item.unplaced = reply'.items.map Item.unplaced := by
  have hresolved : ∀ (left : Element) (items : List Item),
      (items.map (Item.resolve left)).map Item.unplaced
        = (items.map Item.unplaced).map (Item.resolve left.unplaced) := by
    intro left items
    rw [List.map_map, List.map_map]
    exact List.map_congr_left fun item _ => (item.resolve_unplaced left).symm
  cases h with
  | stays he => exact congrArg (fun e : Element => [Item.node e.toNode [] .here []]) he
  | becomes hleft hitems =>
    unfold Reply.items
    dsimp only
    rw [hresolved, hresolved, hleft, hitems]
  -- Opened elements leave their content as items, which are the same but for lines.
  | @opens left left' hleft =>
    have hframe : left.tag.frame = left'.tag.frame := by
      rw [← Tag.frame_unplaced, (Element.mk.inj hleft).1, Tag.frame_unplaced]
    unfold Reply.items
    dsimp only
    rw [← itemsOfContent_unplacedList, ← itemsOfContent_unplacedList, hframe,
      (Element.mk.inj hleft).2]

end Reply.Level

end

end AttrTemplates
