import AttrTemplates.Proofs.Template.Termination

/-!
# `AttrTemplates.Proofs.Template.Nesting`: elements that are processed inside others

Processing an element leads to the processing of others: of its children, of those of an element
whose tag is left out, and of the copies that `repeat` makes. Which elements these are, in which
contexts and in which states, depends on what the directives have done by then.

* `Calls` says which directives of an element are handled, and where;
* `Enters` says which elements are processed inside an element, and from which state, with the turn
  of the loop for a copy;
* `Reaches` is any number of such steps;
* `processWith_congr`: nothing is left out. What the processing of an element comes to depends on
  the processing of those that it enters, and of no others;
* `Enters.fails`: no failure is caught. Where an element that is entered cannot be processed, the one
  around it cannot be either.
-/

set_option autoImplicit false

namespace AttrTemplates

open Xml Run

/-! ### Directives that are handled -/

/-- After some of its directives have been handled an element is still there. -/
def Keeps (ev : Expr.Evaluator) (walk : Walk) (ds : List Directive) (a : Site) (s : RunState)
    (here : Site) (left : List (String × String)) (t : RunState) : Prop :=
  (handleTags .standard ev walk a a.element.tag.waiting (ds.map Directive.tag)).Gives s
    (.on here, left) t

/-- While the element `a` is processed from the state `s`, its directive `d` is handled with the
argument `raw`, at a site and from a state. -/
inductive Calls (ev : Expr.Evaluator) (walk : Walk) (a : Site) (s : RunState) (d : Directive)
    (raw : String) : Site → RunState → Prop
  | next {ds ds' : List Directive} {here : Site} {left : List (String × String)} {t : RunState} :
    Directive.all = ds ++ d :: ds' → Keeps ev walk ds a s here left t →
      left.lookup d.tag = some raw →
      Calls ev walk a s d raw (here.without d) (t.noting [here.announcement d raw])

section

variable {ev : Expr.Evaluator} {walk : Walk} {a here : Site} {s t : RunState}
  {left : List (String × String)}

/-- Where no directives are handled, the site is kept and everything still waits. -/
theorem keeps_nil : Keeps ev walk [] a s a a.element.tag.waiting s :=
  gives_pure_iff.mpr ⟨rfl, rfl⟩

/-- More directives have been handled, one list after the other. -/
theorem Keeps.append {ds ds' : List Directive} {c : Site} {left' : List (String × String)}
    {u : RunState} (h : Keeps ev walk ds a s here left t)
    (h' : (handleTags .standard ev walk here left (ds'.map Directive.tag)).Gives t (.on c, left') u) :
    Keeps ev walk (ds ++ ds') a s c left' u := by
  unfold Keeps
  rw [List.map_append, handleTags_append rfl]
  exact gives_bind_iff.mpr ⟨(.on here, left), t, h, h'⟩

/-- A directive has been passed over. -/
theorem Keeps.skip {ds : List Directive} {d : Directive} (h : Keeps ev walk ds a s here left t)
    (hnone : left.lookup d.tag = none) : Keeps ev walk (ds ++ [d]) a s here left t := by
  refine h.append ?_
  rw [List.map_singleton, handleTags, hnone]
  exact gives_pure_iff.mpr ⟨rfl, rfl⟩

/-- Where no directive waits, none is handled. -/
theorem Keeps.of_nothing (hnone : ∀ d : Directive, a.element.tag.waiting.lookup d.tag = none)
    (ds : List Directive) : Keeps ev walk ds a s a a.element.tag.waiting s := by
  unfold Keeps
  rw [← permitting_true]
  show (handleDirectives (fun _ => true) ev walk a a.element.tag.waiting ds).Gives s _ s
  rw [handleDirectives_of_not_waiting hnone]
  exact gives_pure_iff.mpr ⟨rfl, rfl⟩

/-- A directive has been handled, and the element is still there. -/
theorem Keeps.next {ds : List Directive} {d : Directive} {raw : String} {e : Element}
    {locals : Entries} {u : RunState} (h : Keeps ev walk ds a s here left t)
    (hraw : left.lookup d.tag = some raw)
    (hhandle : (d.handle ev walk raw (here.without d)).Gives
      (t.noting [here.announcement d raw]) (.stays e locals) u) :
    Keeps ev walk (ds ++ [d]) a s ⟨e, here.scope, locals⟩ (left.filter fun w => w.1 != d.tag) u := by
  refine h.append ?_
  rw [List.map_singleton, handleTags_cons_of_waiting rfl [] hraw, standard_handle]
  exact gives_bind_iff.mpr ⟨(), _, gives_note_iff.mpr rfl, gives_bind_iff.mpr
    ⟨_, u, hhandle, gives_pure_iff.mpr ⟨rfl, rfl⟩⟩⟩

/-- What every directive keeps that leaves its element there, all of them keep. -/
theorem handleTags_keeps {P : Site → List (String × String) → Prop}
    (hstep : ∀ {site : Site} {waiting : List (String × String)} {d : Directive} {raw : String}
      {e : Element} {locals : Entries} {s t : RunState}, P site waiting →
        waiting.lookup d.tag = some raw →
        (d.handle ev walk raw (site.without d)).Gives s (.stays e locals) t →
          P ⟨e, site.scope, locals⟩ (waiting.filter fun w => w.1 != d.tag))
    {ds : List Directive} {site : Site} {waiting : List (String × String)} (hP : P site waiting)
    (h : (handleTags .standard ev walk site waiting (ds.map Directive.tag)).Gives s
      (.on here, left) t) : P here left := by
  induction ds generalizing site waiting s with
  | nil =>
    obtain ⟨hpair, -⟩ := gives_pure_iff.mp h
    cases hpair
    exact hP
  | cons d ds ih =>
    rw [← permitting_true] at h ih
    obtain ⟨-, h⟩ | ⟨raw, reply, s₁, hraw, -, hhandle, h⟩ := handleDirectives_cons_gives_iff.mp h
    · exact ih hP h
    · cases reply with
      | stays e locals => exact ih (hstep hP hraw hhandle) h
      | becomes | opens => cases h.1

/-- What is left to be handled was waiting on the element. -/
theorem lookup_of_handleTags {ds : List Directive} {site here : Site} {name raw : String}
    {waiting left : List (String × String)}
    (h : (handleTags .standard ev walk site waiting (ds.map Directive.tag)).Gives s
      (.on here, left) t) (hraw : left.lookup name = some raw) :
    waiting.lookup name = some raw := by
  refine handleTags_keeps (P := fun _ left =>
    left.lookup name = some raw → waiting.lookup name = some raw) ?_ id h hraw
  intro here left d raw' e locals s t hP _ _ hleft
  rw [lookup_filter_ne] at hleft
  split at hleft
  · cases hleft
  · exact hP hleft

/-- A directive that is handled waits on the element. -/
theorem Calls.lookup_waiting {d : Directive} {raw : String} (h : Calls ev walk a s d raw here t) :
    a.element.tag.waiting.lookup d.tag = some raw := by
  obtain ⟨-, hkept, hraw⟩ := h
  exact lookup_of_handleTags hkept hraw

/-- When all directives have been handled, those left over are noted. -/
theorem handled_gives_iff :
    (handleLanguages ev walk a (pendingOn [.standard] a.element.tag) [.standard]).Gives s
        (.on here) t ↔
      ∃ left s₁, Keeps ev walk Directive.all a s here left s₁ ∧ t = s₁.leaving here left := by
  unfold Keeps
  rw [← permitting_true]
  exact handleLanguages_gives_iff

/-- Where a reply ends the handling of directives, the element is not there any more. -/
theorem not_stays_of_done {ds : List Directive} {site : Site} {waiting : List (String × String)}
    {e : Element} {locals : Entries}
    (h : (handleTags .standard ev walk site waiting (ds.map Directive.tag)).Gives s
      (.done (.stays e locals), left) t) : False := by
  induction ds generalizing site waiting s with
  | nil => cases (gives_pure_iff.mp h).1
  | cons d ds ih =>
    rw [← permitting_true] at h ih
    obtain ⟨-, h⟩ | ⟨raw, reply, s₁, -, -, -, h⟩ := handleDirectives_cons_gives_iff.mp h
    · exact ih h
    · cases reply with
      | stays e locals => exact ih h
      | becomes | opens => cases h.1

/-- An element that stays is there when its directives have been handled, and answers with the local
context that it has then. -/
theorem Keeps.of_stays {fuel : Nat} {e : Element} {locals : Entries}
    (h : (standardWalk ev (fuel + 1) a).Gives s (.stays e locals) t) :
    ∃ here left s₁, Keeps ev (standardWalk ev fuel) Directive.all a s here left s₁ ∧
      locals = here.locals := by
  unfold Keeps standardWalk at *
  rw [← permitting_true] at h ⊢
  obtain ⟨progress, left, s₁, hhandled, h⟩ := permittedWalk_succ_gives_iff.mp h
  cases progress with
  | done reply =>
    obtain ⟨rfl, -⟩ := h
    unfold handleDirectives permittedWalk at hhandled
    rw [permitting_true] at hhandled
    exact (not_stays_of_done hhandled).elim
  | on here =>
    obtain ⟨children, -, hreply⟩ := h
    cases hreply
    exact ⟨here, left, s₁, hhandled, rfl⟩

end

/-! ### Elements that are entered -/

/-- One turn of a loop: the name of the loop, the number of the item, and how many there are. -/
structure Turn where
  loop : String
  index : Nat
  length : Nat
  deriving DecidableEq, Repr

/-- The state of the loop in a turn. -/
def Turn.state (t : Turn) : LoopState := ⟨t.index, t.length⟩

/-- While the element `a` is processed from the state `s`, an element is processed at a site and
from a state. If it is a copy, it is one for a turn of a loop. -/
inductive Enters (ev : Expr.Evaluator) (walk : Walk) (a : Site) (s : RunState) :
    Option Turn → Site → RunState → Prop
  /-- A child of the element, when its directives have been handled. -/
  | child {here : Site} {left : List (String × String)} {s₁ : RunState} {front behind : List Node}
      {tag : Tag} {children nodes : List Node} {t : RunState} :
    Keeps ev walk Directive.all a s here left s₁ →
      here.element.children = front ++ .element tag children :: behind →
      (walkNodes walk here.innerScope here.locals front).Gives (s₁.leaving here left) nodes t →
      Enters ev walk a s none ⟨⟨tag, children⟩, here.innerScope, here.locals⟩ t
  /-- A child of the element, while its tag is left out. -/
  | opened {raw : String} {here : Site} {s₁ : RunState} {notes : List Event}
      {front behind : List Node} {tag : Tag} {children nodes : List Node} {t : RunState} :
    Calls ev walk a s .omitTag raw here s₁ →
      omitted ev here.locals s₁.globals raw = some (true, notes) →
      here.element.children = front ++ .element tag children :: behind →
      (walkNodes walk here.innerScope here.locals front).Gives (s₁.noting notes) nodes t →
      Enters ev walk a s none ⟨⟨tag, children⟩, here.innerScope, here.locals⟩ t
  /-- A copy of the element, when those for the items before have been processed. -/
  | copied {raw : String} {here : Site} {s₁ s₂ : RunState} {argument : NamedExpression} {v : Value}
      {items : List Value} {loops : Entries} {i : Nat} {item : Value} {results : List Item}
      {t : RunState} :
    Calls ev walk a s .repetition raw here s₁ →
      NamedExpression.parse? isVariableChar raw = some argument →
      (evaluateIn ev here.locals argument.expression).Gives s₁ v s₂ → v.truth = true →
      v.items? = some items → enclosingLoops here.locals = .ok loops → items[i]? = some item →
      (repeatFrom walk here.element.standalone here.locals loops argument.name items.length 0
        (items.take i)).Gives s₂ results t →
      Enters ev walk a s (some ⟨argument.name, i, items.length⟩)
        ⟨here.element.standalone, [],
          loopContext here.locals loops argument.name item ⟨i, items.length⟩⟩ t.inFreshCopy

/-- While the element `a` is processed from the state `s` with some depth, another is processed with
some depth, inside the turns of some loops, outermost first. All elements on the way, of which the
last need not be one, satisfy a condition. -/
inductive Reaches (ev : Expr.Evaluator) (through : Site → Prop) (depth : Nat) (a : Site)
    (s : RunState) : List Turn → Nat → Site → RunState → Prop
  | here : Reaches ev through depth a s [] depth a s
  | inside {turns : List Turn} {turn? : Option Turn} {fuel : Nat} {b c : Site} {t u : RunState} :
    Reaches ev through depth a s turns (fuel + 1) b t → through b →
      Enters ev (standardWalk ev fuel) b t turn? c u →
      Reaches ev through depth a s (turns ++ turn?.toList) fuel c u

/-! ### Nothing is left out -/

/-- Two sequences come to the same if their first steps do, and what follows where these succeed. -/
theorem Run.run_bind_congr {α β : Type} {r r' : Run α} {f f' : α → Run β} {s : RunState}
    (hr : r.run.run s = r'.run.run s)
    (hf : ∀ a t, r.Gives s a t → (f a).run.run t = (f' a).run.run t) :
    (r >>= f).run.run s = (r' >>= f').run.run s := by
  rw [run_bind, run_bind, ← hr]
  cases h : r.run.run s with
  | mk x t =>
    cases x with
    | error e => rfl
    | ok a => exact hf a t h

section

variable {ev : Expr.Evaluator} {walk walk' : Walk} {s : RunState}

/-- What becomes of nodes depends on the processing of the elements among them, each from the state
that those before it lead to. -/
theorem walkNodes_congr {scope : Scope} {locals : Entries} {ns : List Node}
    (h : ∀ front tag children behind nodes t, ns = front ++ .element tag children :: behind →
      (walkNodes walk scope locals front).Gives s nodes t →
        (walk ⟨⟨tag, children⟩, scope, locals⟩).run.run t
          = (walk' ⟨⟨tag, children⟩, scope, locals⟩).run.run t) :
    (walkNodes walk scope locals ns).run.run s = (walkNodes walk' scope locals ns).run.run s := by
  induction ns generalizing s with
  | nil => rfl
  | cons n ns ih =>
    cases n with
    | element tag children =>
      have hhere := h [] tag children ns [] s rfl (walkNodes_nil_gives_iff.mpr ⟨rfl, rfl⟩)
      refine run_bind_congr hhere fun reply s₁ hreply => run_bind_congr rfl fun here s₂ hplace =>
        run_bind_congr (ih fun front tag' children' behind nodes t hns hfront => ?_) fun _ _ _ => rfl
      refine h (.element tag children :: front) tag' children' behind (here ++ nodes) t
        (by rw [hns]; rfl) ?_
      exact walkNodes_element_gives_iff.mpr
        ⟨reply, s₁, here, s₂, nodes, hreply, hplace, hfront, rfl⟩
    | comment | instruction | reference | text =>
      refine run_bind_congr (ih fun front tag children behind nodes t hns hfront => ?_)
        fun _ _ _ => rfl
      exact h (_ :: front) tag children behind (_ :: nodes) t (by rw [hns]; rfl)
        ((walkNodes_other_gives_iff rfl).mpr ⟨nodes, hfront, rfl⟩)

/-- What copies come to depends on the processing of each of them, from the state that those before
it lead to. -/
theorem repeatFrom_congr {copy : Element} {locals loops : Entries} {name : String}
    {length index : Nat} {items : List Value}
    (h : ∀ i item results t, items[i]? = some item →
      (repeatFrom walk copy locals loops name length index (items.take i)).Gives s results t →
        (walk ⟨copy, [], loopContext locals loops name item ⟨(index + i : Nat), length⟩⟩).run.run
            t.inFreshCopy
          = (walk' ⟨copy, [], loopContext locals loops name item ⟨(index + i : Nat), length⟩⟩).run.run
            t.inFreshCopy) :
    (repeatFrom walk copy locals loops name length index items).run.run s
      = (repeatFrom walk' copy locals loops name length index items).run.run s := by
  induction items generalizing index s with
  | nil => rfl
  | cons item items ih =>
    -- The first copy is entered before there are results, which is the case `i = 0`.
    have hfirst := h 0 item [] s rfl (repeatFrom_nil_gives_iff.mpr ⟨rfl, rfl⟩)
    have hcopy : (inNewCopy (walk ⟨copy, [], loopContext locals loops name item
          ⟨index, length⟩⟩)).run.run s
        = (inNewCopy (walk' ⟨copy, [], loopContext locals loops name item
          ⟨index, length⟩⟩)).run.run s :=
      run_bind_congr rfl fun before t hget => run_bind_congr rfl fun _ u hset => by
        obtain ⟨rfl, rfl⟩ := gives_get_iff.mp hget
        obtain rfl := gives_set_iff.mp hset
        exact run_bind_congr hfirst fun _ _ _ => rfl
    -- The others are entered after the first, so their place in the items is one further on.
    refine run_bind_congr hcopy fun reply s₁ hreply =>
      run_bind_congr (ih fun i item' results t hitem hbefore => ?_) fun _ _ _ => rfl
    have hnext := h (i + 1) item' (reply.items.map Item.ofCopy ++ results) t hitem ?_
    · rwa [← Nat.add_assoc, Nat.add_right_comm] at hnext
    · obtain ⟨s₂, hcopied, rfl⟩ := inNewCopy_gives_iff.mp hreply
      exact repeatFrom_cons_gives_iff.mpr ⟨reply, s₂, results, hcopied, hbefore, rfl⟩

/-- What a directive does depends on the processing of the elements that are entered then. -/
theorem Calls.handle_congr {a here : Site} {t : RunState} {d : Directive} {raw : String}
    (hcall : Calls ev walk a s d raw here t)
    (h : ∀ turn? b u, Enters ev walk a s turn? b u →
      (walk b).run.run u = (walk' b).run.run u) :
    (d.handle ev walk raw here).run.run t = (d.handle ev walk' raw here).run.run t := by
  cases d with
  | define | condition | content | replace | attributes => rfl
  | repetition =>
    refine run_bind_congr rfl fun argument t₁ hargument => run_bind_congr rfl fun v t₂ hv => ?_
    obtain ⟨hparse, rfl⟩ := gives_lift_iff.mp hargument
    cases htruth : v.truth with
    | false => rfl
    | true =>
      cases hitems : v.items? with
      | none => rfl
      | some items =>
        refine run_bind_congr rfl fun loops t₃ hlifted => run_bind_congr ?_ fun _ _ _ => rfl
        obtain ⟨hloops, rfl⟩ := gives_lift_iff.mp hlifted
        refine repeatFrom_congr fun i item results u hitem hbefore => ?_
        rw [Nat.zero_add]
        exact h _ _ _ (.copied hcall (wellFormed_eq_ok_iff.mp hparse) hv htruth hitems hloops hitem
          hbefore)
  | omitTag =>
    -- The children are walked only where `omitted` says that the tag goes, which is what it takes
    -- for an element inside to be entered.
    have hbehind : ∀ keep notes,
        omitted ev here.locals t.globals raw = some (!keep, notes) →
        (openUnless walk here keep).run.run (t.noting notes)
          = (openUnless walk' here keep).run.run (t.noting notes) := by
      intro keep notes homitted
      cases keep with
      | true => rfl
      | false =>
        refine run_bind_congr (walkNodes_congr fun front tag children behind nodes u hns hfront => ?_)
          fun _ _ _ => rfl
        exact h _ _ _ (.opened hcall homitted hns hfront)
    unfold omitted at hbehind
    simp only [Directive.handle, omitTag_eq]
    split
    · rename_i hblank
      rw [if_pos hblank] at hbehind
      have hnothing := hbehind false [] rfl
      rw [RunState.noting_nil] at hnothing
      exact hnothing
    · rename_i hblank
      rw [if_neg hblank] at hbehind
      refine run_bind_congr rfl fun v t₁ hevaluated => ?_
      obtain ⟨notes, hv, rfl⟩ := evaluateIn_gives_iff.mp hevaluated
      rw [hv] at hbehind
      exact hbehind (!v.truth) notes (by rw [Bool.not_not])

/-- Processing an element depends on the processing of the elements that it enters, each in the
context and from the state it is entered in, and of no others. -/
theorem processWith_congr {a : Site}
    (h : ∀ turn? b t, Enters ev walk a s turn? b t → (walk b).run.run t = (walk' b).run.run t) :
    (processWith [.standard] ev walk a).run.run s
      = (processWith [.standard] ev walk' a).run.run s := by
  have hhandled : ∀ ds ds' here left t, Directive.all = ds ++ ds' →
      Keeps ev walk ds a s here left t →
        (handleTags .standard ev walk here left (ds'.map Directive.tag)).run.run t
          = (handleTags .standard ev walk' here left (ds'.map Directive.tag)).run.run t := by
    intro ds ds' here left t hall hkept
    -- By induction on the directives that are still to come.
    induction ds' generalizing ds here left t with
    | nil => rfl
    | cons d ds' ih =>
      have hall' : Directive.all = (ds ++ [d]) ++ ds' := by
        rw [hall, List.append_assoc, List.singleton_append]
      rw [List.map_cons]
      cases hraw : left.lookup d.tag with
      | none =>
        rw [handleTags, handleTags, hraw]
        exact ih _ _ _ _ hall' (hkept.skip hraw)
      | some raw =>
        rw [handleTags_cons_of_waiting rfl _ hraw, handleTags_cons_of_waiting rfl _ hraw,
          standard_handle, standard_handle]
        refine run_bind_congr rfl fun _ t₁ hnote => ?_
        obtain rfl := gives_note_iff.mp hnote
        have hcall : Calls ev walk a s d raw (here.without d) _ := .next hall hkept hraw
        refine run_bind_congr (hcall.handle_congr h) fun reply t₂ hreply => ?_
        cases reply with
        | stays e locals => exact ih _ _ _ _ hall' (hkept.next hraw hreply)
        | becomes | opens => rfl
  have hlanguages : (handleLanguages ev walk a (pendingOn [.standard] a.element.tag)
        [.standard]).run.run s
      = (handleLanguages ev walk' a (pendingOn [.standard] a.element.tag) [.standard]).run.run s := by
    rw [handleLanguages_single rfl, handleLanguages_single rfl]
    exact run_bind_congr (hhandled [] Directive.all a _ s rfl keeps_nil) fun _ _ _ => rfl
  refine run_bind_congr hlanguages fun progress t hprogress => ?_
  cases progress with
  | done reply => rfl
  | on here =>
    obtain ⟨left, s₁, hkept, rfl⟩ := handled_gives_iff.mp hprogress
    refine run_bind_congr (walkNodes_congr fun front tag children behind nodes u hns hfront => ?_)
      fun _ _ _ => rfl
    exact h _ _ _ (.child hkept hns hfront)

end

/-! ### Failures come through -/

/-- A step fails from a state. -/
def Run.Fails {α : Type} (r : Run α) (s : RunState) (f : Failure) : Prop :=
  (r.run.run s).1 = .error f

section

variable {f : Failure} {s t : RunState}

/-- A sequence fails where its first step does. -/
theorem Run.Fails.bind {α β : Type} {r : Run α} (h : r.Fails s f) (g : α → Run β) :
    (r >>= g).Fails s f := by
  unfold Fails at h ⊢
  rw [run_bind]
  generalize r.run.run s = x at h
  obtain ⟨x, s'⟩ := x
  cases h
  rfl

/-- A sequence fails where its first step succeeds and the rest fails. -/
theorem Run.Gives.bind_fails {α β : Type} {r : Run α} {a : α} {g : α → Run β} (h : r.Gives s a t)
    (hg : (g a).Fails t f) : (r >>= g).Fails s f := by
  unfold Fails at hg ⊢
  rw [run_bind, show r.run.run s = _ from h]
  exact hg

variable {ev : Expr.Evaluator} {walk : Walk}

/-- Nodes are not processed if one of them cannot be, when those before it have been. -/
theorem walkNodes_fails {scope : Scope} {locals : Entries} {front behind : List Node} {tag : Tag}
    {children nodes : List Node} (hfront : (walkNodes walk scope locals front).Gives s nodes t)
    (hfails : (walk ⟨⟨tag, children⟩, scope, locals⟩).Fails t f) :
    (walkNodes walk scope locals (front ++ .element tag children :: behind)).Fails s f := by
  induction front generalizing s nodes with
  | nil =>
    obtain ⟨-, rfl⟩ := walkNodes_nil_gives_iff.mp hfront
    exact hfails.bind _
  | cons n front ih =>
    cases n with
    | element tag' children' =>
      obtain ⟨reply, s₁, here, s₂, rest, hreply, hplace, hrest, -⟩ :=
        walkNodes_element_gives_iff.mp hfront
      exact hreply.bind_fails (hplace.bind_fails ((ih hrest).bind _))
    | comment | instruction | reference | text =>
      obtain ⟨rest, hrest, -⟩ := (walkNodes_other_gives_iff rfl).mp hfront
      exact (ih hrest).bind _

/-- Copies are not made if one of them cannot be processed, when those before it have been. -/
theorem repeatFrom_fails {copy : Element} {locals loops : Entries} {name : String}
    {length index i : Nat} {items : List Value} {item : Value} {results : List Item}
    (hitem : items[i]? = some item)
    (hbefore : (repeatFrom walk copy locals loops name length index (items.take i)).Gives s results t)
    (hfails : (walk ⟨copy, [], loopContext locals loops name item ⟨(index + i : Nat), length⟩⟩).Fails
      t.inFreshCopy f) :
    (repeatFrom walk copy locals loops name length index items).Fails s f := by
  induction items generalizing index i s results with
  | nil => cases hitem
  | cons item' items ih =>
    cases i with
    | zero =>
      cases hitem
      obtain ⟨-, rfl⟩ := repeatFrom_nil_gives_iff.mp hbefore
      have hcopy : (inNewCopy (walk ⟨copy, [], loopContext locals loops name item
          ⟨index, length⟩⟩)).Fails t f :=
        (gives_get_iff.mpr ⟨rfl, rfl⟩ : (get : Run RunState).Gives t t t).bind_fails
          ((gives_set_iff.mpr rfl : (set _ : Run PUnit).Gives t () t.inFreshCopy).bind_fails
            (hfails.bind _))
      exact hcopy.bind _
    | succ i =>
      obtain ⟨reply, s₁, rest, hcopied, hrest, -⟩ := repeatFrom_cons_gives_iff.mp hbefore
      refine (inNewCopy_gives_iff.mpr ⟨s₁, hcopied, rfl⟩).bind_fails ((ih hitem hrest ?_).bind _)
      rwa [Nat.add_assoc, Nat.add_comm 1 i]

variable {a here : Site} {d : Directive} {raw : String}

/-- What `omit-tag` does once it is known whether the tag is omitted. -/
theorem omitTag_run {out : Bool} {notes : List Event}
    (h : omitted ev a.locals s.globals raw = some (out, notes)) :
    (omitTag ev walk raw a).run.run s = (openUnless walk a !out).run.run (s.noting notes) := by
  unfold omitted at h
  rw [omitTag_eq]
  split at h
  · rename_i hblank
    cases h
    rw [if_pos hblank, RunState.noting_nil]
    rfl
  · rename_i hblank
    split at h
    · cases h
    · rename_i v notes' hv
      cases h
      have hevaluated : (evaluateIn ev a.locals raw).Gives s v (s.noting notes) :=
        evaluateIn_gives_iff.mpr ⟨notes, hv, rfl⟩
      rw [if_neg hblank, run_bind, show (evaluateIn ev a.locals raw).run.run s = _ from
        hevaluated]

/-- An element is not processed if one of its directives fails. -/
theorem Calls.fails (hcall : Calls ev walk a s d raw here t)
    (hfails : (d.handle ev walk raw here).Fails t f) :
    (processWith [.standard] ev walk a).Fails s f := by
  obtain ⟨hall, hkept, hraw⟩ := hcall
  rename_i ds ds' here left s₁
  have hhandled : (handleTags .standard ev walk a a.element.tag.waiting
      Language.standard.tags).Fails s f := by
    show (handleTags .standard ev walk a a.element.tag.waiting
      (Directive.all.map Directive.tag)).Fails s f
    rw [hall, List.map_append, handleTags_append rfl]
    refine hkept.bind_fails ?_
    show (handleTags .standard ev walk here left ((d :: ds').map Directive.tag)).Fails _ f
    rw [List.map_cons, handleTags_cons_of_waiting rfl _ hraw, standard_handle]
    exact (gives_note_iff.mpr rfl : (Run.note _).Gives _ () _).bind_fails (hfails.bind _)
  unfold processWith
  rw [handleLanguages_single rfl]
  exact (hhandled.bind _).bind _

/-- An element is not processed if one that it enters cannot be. -/
theorem Enters.fails {b : Site} {turn? : Option Turn} (h : Enters ev walk a s turn? b t)
    (hfails : (walk b).Fails t f) : (processWith [.standard] ev walk a).Fails s f := by
  -- An element inside is reached as a child, through a tag that is omitted, or as a copy of what is
  -- repeated. Each way is a sequence that has come to the element, and fails there.
  cases h with
  | child hkept hchildren hfront =>
    refine (handled_gives_iff.mpr ⟨_, _, hkept, rfl⟩).bind_fails ?_
    dsimp only
    rw [hchildren]
    exact (walkNodes_fails hfront hfails).bind _
  | @opened raw here s₁ notes front behind tag children nodes _ hcall homitted hchildren hfront =>
    refine hcall.fails ?_
    show ((omitTag ev walk raw here).run.run s₁).1 = _
    rw [omitTag_run homitted]
    refine Run.Fails.bind ?_ _
    rw [hchildren]
    exact walkNodes_fails hfront hfails
  | @copied raw here s₁ s₂ argument v items loops i item results u hcall hparse hv htruth hitems
      hloops hitem hbefore =>
    refine hcall.fails ((gives_lift_iff.mpr ⟨wellFormed_eq_ok_iff.mpr hparse, rfl⟩).bind_fails
      (hv.bind_fails ?_))
    have hcopies : (repeatFrom walk here.element.standalone here.locals loops argument.name
        items.length 0 items).Fails s₂ f :=
      repeatFrom_fails hitem hbefore (by rwa [Nat.zero_add])
    simp only [htruth, hitems]
    exact (gives_lift_iff.mpr ⟨hloops, rfl⟩).bind_fails (hcopies.bind _)

end

end AttrTemplates
