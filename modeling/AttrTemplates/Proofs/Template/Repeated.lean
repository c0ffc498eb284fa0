import AttrTemplates.Proofs.Template.Consumed
import AttrTemplates.Proofs.Template.Spliced

/-!
# `AttrTemplates.Proofs.Template.Repeated`: a repetition stands for its copies

An element with a repetition is replaced by what stands for its copies, one for each item. That
is like writing the copies down one after the other and processing each with the name of the loop
bound to its item. The copies see the global definitions of those before them, and nothing else
of them.

* `BindsLoop` is what a copy finds in its local context;
* `Unrolls` are the copies, with the global context passed from each to the next;
* `RepeatsTo` is the whole way of the element: its definitions and its condition come first, once,
  and no copy has them;
* `repeat_unrolls` says that every element with a repetition goes that way, wherever it stands, and
  that the text behind it then is behind the last copy.
-/

set_option autoImplicit false

namespace AttrTemplates

open Xml Run

/-! ### The context of a copy -/

/-- A key for a name is the string of that name. -/
theorem Value.isKey_iff {k : String} {v : Value} : v.isKey k = true ↔ v = .str k := by
  unfold Value.isKey
  split
  · rw [beq_iff_eq, Value.str.injEq]
  · rename_i hother
    constructor
    · intro h
      cases h
    · exact fun h => absurd h (hother k)

namespace Entries

/-- A name is looked up in the first entry and then in the others. -/
theorem get?_cons (e : Value × Value) (rest : Entries) (k : String) :
    get? (e :: rest) k = if e.1.isKey k then some e.2 else get? rest k := by
  unfold get?
  rw [List.find?_cons]
  cases e.1.isKey k <;> rfl

/-- A name that has been bound stands for the value. -/
theorem get?_bind_self (entries : Entries) (k : String) (v : Value) :
    (entries.bind k v).get? k = some v := by
  induction entries with
  | nil =>
    rw [Entries.bind, get?_cons]
    exact if_pos (beq_self_eq_true k)
  | cons e rest ih =>
    rw [Entries.bind]
    split
    · rename_i hkey
      rw [get?_cons, if_pos hkey]
    · rename_i hkey
      rw [get?_cons, if_neg hkey, ih]

/-- All other names stand for what they stood for. -/
theorem get?_bind_of_ne (entries : Entries) {k other : String} (v : Value) (h : other ≠ k) :
    (entries.bind k v).get? other = entries.get? other := by
  induction entries with
  | nil =>
    rw [Entries.bind, get?_cons]
    refine if_neg fun hkey => h ?_
    exact (Value.str.inj (Value.isKey_iff.mp hkey)).symm
  | cons e rest ih =>
    rw [Entries.bind]
    split
    · rename_i hkey
      -- What is one key is no other.
      have hother : ¬e.1.isKey other = true := fun hother =>
        h (Value.str.inj ((Value.isKey_iff.mp hother).symm.trans (Value.isKey_iff.mp hkey)))
      rw [get?_cons, get?_cons, if_neg hother, if_neg hother]
    · rw [get?_cons, get?_cons, ih]

end Entries

/-- What a copy finds in its local context: its item under the name of the loop, the state of the
loop beside those of the loops around under `repeat`, and everything else as it was. -/
structure BindsLoop (locals : Entries) (name : String) (item : Value) (state : LoopState)
    (context : Entries) : Prop where
  item : context.get? name = some item
  loops : ∃ outer inner : Entries, enclosingLoops locals = .ok outer ∧
    context.get? "repeat" = some (.map inner) ∧ inner.get? name = some (.loop state) ∧
    ∀ other, other ≠ name → inner.get? other = outer.get? other
  elsewhere : ∀ other, other ≠ name → other ≠ "repeat" → context.get? other = locals.get? other

/-- A loop that is itself named `repeat` would hide its items behind the states of the loops. -/
theorem bindsLoop_loopContext {locals loops : Entries} {name : String} (hname : name ≠ "repeat")
    (hloops : enclosingLoops locals = .ok loops) (item : Value) (state : LoopState) :
    BindsLoop locals name item state (loopContext locals loops name item state) := by
  unfold loopContext
  refine ⟨?_, ⟨loops, loops.bind name (.loop state), hloops, ?_, ?_, ?_⟩, ?_⟩
  · rw [Entries.get?_bind_of_ne _ _ hname, Entries.get?_bind_self]
  · exact Entries.get?_bind_self _ _ _
  · exact Entries.get?_bind_self _ _ _
  · exact fun other hother => Entries.get?_bind_of_ne _ _ hother
  · intro other hother hrepeat
    rw [Entries.get?_bind_of_ne _ _ hrepeat, Entries.get?_bind_of_ne _ _ hother]

/-! ### The copies -/

/-- The content that copies of an element make, one for each of some items, of which the first has
the number `index` among `length`. Every copy is processed alone, in a document of its own, with
its item bound. The globals and the notes go from each copy to the next. -/
def Unrolls (walk : Walk) (copy : Element) (locals : Entries) (name : String)
    (length index : Nat) (items : List Value) (s : RunState) (content : List Node)
    (s' : RunState) : Prop :=
  ∃ (nodes : Nat → List Node) (states : Nat → RunState),
    states 0 = s ∧ states items.length = s' ∧
    content = (List.range items.length).flatMap nodes ∧
    ∀ i item, items[i]? = some item → ∃ context t,
      BindsLoop locals name item ⟨(index + i : Nat), length⟩ context ∧
      (processAlone walk context [] copy.toNode).Gives (states i).inFreshCopy (nodes i) t ∧
      states (i + 1) = t.backIn (states i)

section

variable {walk : Walk} {copy : Element} {locals : Entries} {name : String} {length index : Nat}
  {items : List Value} {s s' : RunState}

/-- No items are unrolled to nothing. -/
theorem unrolls_nil : Unrolls walk copy locals name length index [] s [] s :=
  ⟨fun _ => [], fun _ => s, rfl, rfl, rfl, fun i item hitem => by cases hitem⟩

/-- One copy more in front. -/
theorem Unrolls.cons {item : Value} {context : Entries} {here rest : List Node} {t : RunState}
    (hcontext : BindsLoop locals name item ⟨index, length⟩ context)
    (hcopy : (processAlone walk context [] copy.toNode).Gives s.inFreshCopy here t)
    (hrest : Unrolls walk copy locals name length (index + 1) items (t.backIn s) rest s') :
    Unrolls walk copy locals name length index (item :: items) s (here ++ rest) s' := by
  obtain ⟨nodes, states, hfirst, hlast, rfl, hcopies⟩ := hrest
  refine ⟨fun i => i.casesOn here nodes, fun i => i.casesOn s states, rfl, hlast, ?_, ?_⟩
  · rw [List.length_cons, List.range_succ_eq_map, List.flatMap_cons, List.flatMap_map]
    rfl
  · intro i item' hitem
    cases i with
    | zero =>
      cases hitem
      exact ⟨context, t, hcontext, hcopy, hfirst⟩
    | succ i =>
      obtain ⟨context', t', hcontext', hcopy', hnext⟩ := hcopies i item' hitem
      rw [Nat.add_assoc, Nat.add_comm 1 i] at hcontext'
      exact ⟨context', t', hcontext', hcopy', hnext⟩

/-- Without items there is no content, and nothing happens. -/
theorem Unrolls.of_nil {content : List Node}
    (h : Unrolls walk copy locals name length index [] s content s') : content = [] ∧ s' = s := by
  obtain ⟨nodes, states, rfl, rfl, rfl, -⟩ := h
  exact ⟨rfl, rfl⟩

/-- The items of a copy bring along what they bring along anywhere. -/
theorem contentOf_ofCopy (reply : Reply) (self : Element) :
    contentOf ((reply.items.map Item.ofCopy).map (Item.resolve self)) = reply.content := by
  unfold Reply.content contentOf
  rw [List.map_map, List.flatMap_map]
  refine List.flatMap_congr fun item hitem => ?_
  have hself := reply.items_not_itself item hitem
  rw [Function.comp_apply, Item.resolve_of_not_itself (Item.ofCopy_not_itself hself)]
  cases item with
  | text => rfl
  | node n tail origin outer => cases origin <;> rfl
  | itself => cases hself

/-- The loop over the items makes the copies. -/
theorem repeatFrom_unrolls {loops : Entries} {results : List Item} (hname : name ≠ "repeat")
    (hloops : enclosingLoops locals = .ok loops) (self : Element)
    (h : (repeatFrom walk copy locals loops name length index items).Gives s results s') :
    Unrolls walk copy locals name length index items s (contentOf (results.map (Item.resolve self)))
      s' := by
  induction items generalizing index s results with
  | nil =>
    obtain ⟨rfl, rfl⟩ := repeatFrom_nil_gives_iff.mp h
    exact unrolls_nil
  | cons item items ih =>
    obtain ⟨reply, t, rest, hreply, hrest, rfl⟩ := repeatFrom_cons_gives_iff.mp h
    rw [List.map_append, contentOf_append, contentOf_ofCopy]
    exact (ih hrest).cons (bindsLoop_loopContext hname hloops item ⟨index, length⟩)
      (processAlone_element_gives_iff.mpr ⟨reply, hreply, rfl⟩)

end

/-- Repeating an element replaces it by its copies for the items of the value. A value that is not
true is not asked for its items. -/
theorem repetition_unrolls {ev : Expr.Evaluator} {walk : Walk} {raw : String}
    {a : NamedExpression} {site : Site} {s s' : RunState} {reply : Reply}
    (hparse : NamedExpression.parse? isVariableChar raw = some a) (hname : a.name ≠ "repeat")
    (h : (repetition ev walk raw site).Gives s reply s') :
    ∃ v s₁ items results, (evaluateIn ev site.locals a.expression).Gives s v s₁ ∧
      (if v.truth then v.items? = some items else items = []) ∧
      reply = .becomes site.element results ∧
      Unrolls walk site.element.standalone site.locals a.name items.length 0 items s₁
        reply.content s' := by
  obtain ⟨a', v, s₁, hparse', hv, h⟩ := repetition_gives_iff.mp h
  obtain rfl : a = a' := Option.some.inj (hparse.symm.trans hparse')
  cases htruth : v.truth with
  | true =>
    rw [htruth] at h
    obtain ⟨items, loops, results, hitems, hloops, hresults, rfl⟩ := h
    refine ⟨v, s₁, items, results, hv, ?_, rfl, repeatFrom_unrolls hname hloops _ hresults⟩
    rw [htruth]
    exact hitems
  | false =>
    rw [htruth] at h
    obtain ⟨rfl, rfl⟩ := h
    refine ⟨v, s', [], [], hv, ?_, rfl, unrolls_nil⟩
    rw [htruth]
    rfl

/-! ### What the copies are copies of -/

namespace Xml

/-- An element without a directive that it may carry. -/
def Element.without (e : Element) (d : Directive) : Element :=
  if (e.tag.waiting.lookup d.tag).isSome then
    { e with tag := e.tag.withoutAttribute (attributeKey standardUri d.tag) }
  else e

/-- A directive that waits is taken off with its attribute. -/
theorem Element.without_of_waiting {e : Element} {d : Directive} {raw : String}
    (h : e.tag.waiting.lookup d.tag = some raw) :
    e.without d = { e with tag := e.tag.withoutAttribute (attributeKey standardUri d.tag) } :=
  if_pos (by rw [h, Option.isSome_some])

/-- A directive that does not wait is not taken off. -/
theorem Element.without_of_not_waiting {e : Element} {d : Directive}
    (h : e.tag.waiting.lookup d.tag = none) : e.without d = e :=
  if_neg (by rw [h, Option.isSome_none]; exact Bool.false_ne_true)

/-- The directive does not wait any more, and all others do. -/
theorem Element.waiting_without (e : Element) (d : Directive) :
    (e.without d).tag.waiting = e.tag.waiting.filter fun w => w.1 != d.tag := by
  cases h : e.tag.waiting.lookup d.tag with
  | some raw => rw [Element.without_of_waiting h, Tag.waiting_without]
  | none =>
    rw [Element.without_of_not_waiting h]
    refine (List.filter_eq_self.mpr fun w hw => ?_).symm
    rw [bne_comm]
    exact List.lookup_eq_none_iff.mp h w hw

/-- Of what waits, all but the directive that was taken off is still there. -/
theorem Element.lookup_without (e : Element) (d : Directive) (name : String) :
    (e.without d).tag.waiting.lookup name
      = if name = d.tag then none else e.tag.waiting.lookup name := by
  rw [Element.waiting_without, lookup_filter_ne]

/-! An attribute is known by its namespace, but a copy looks its prefix up. On a tag that gives no
prefix two meanings that is the same. -/

/-- The bindings in use on a tag. -/
def Tag.bindings (t : Tag) : List Binding :=
  t.declarations ++ t.name.binding.toList ++ t.attributes.filterMap fun a => a.name.binding

/-- Bindings none of which gives the prefix of another a meaning of its own. -/
def Unambiguous (bs : List Binding) : Prop :=
  ∀ b ∈ bs, ∀ c ∈ bs, b.nsPrefix = c.nsPrefix → b.uri = c.uri

/-- Whether bindings are unambiguous is decided pair by pair. -/
instance (bs : List Binding) : Decidable (Unambiguous bs) :=
  inferInstanceAs (Decidable (∀ b ∈ bs, ∀ c ∈ bs, b.nsPrefix = c.nsPrefix → b.uri = c.uri))

/-- Taking a directive off brings no new bindings. -/
theorem Element.bindings_without_subset (e : Element) (d : Directive) :
    (e.without d).tag.bindings ⊆ e.tag.bindings := by
  unfold Element.without
  split
  · exact List.append_subset.mpr ⟨List.subset_append_left _ _,
      List.Subset.trans (List.filter_sublist.filterMap _).subset (List.subset_append_right _ _)⟩
  · exact List.Subset.refl _

section

variable {bs : List Binding} {f : Frame} {added : List Binding}
  (hbs : Unambiguous bs) (hf : f.declarations ⊆ bs)
include hbs hf

/-- A name in a copy lies in the namespace that it lay in. -/
theorem copiedBinding_uri (hadded : added ⊆ bs) {binding : Option Binding}
    (hbinding : binding.toList ⊆ bs) :
    (copiedBinding [f] added binding).1.map (·.uri) = binding.map (·.uri) ∧
      (copiedBinding [f] added binding).2 ⊆ bs := by
  cases binding with
  | none => exact ⟨rfl, hadded⟩
  | some b =>
    have hb : b ∈ bs := hbinding (List.mem_singleton_self b)
    unfold copiedBinding
    dsimp only
    split
    · exact ⟨rfl, hadded⟩
    · split
      · rename_i found hfound
        refine ⟨?_, hadded⟩
        -- What the prefix means comes from the declarations, or from a name further in front.
        have hfind : (f.declarations ++ added).find? (fun c => c.nsPrefix == b.nsPrefix)
            = some found := by
          rw [Option.orElse_eq_orElse, Option.orElse_eq_or, Scope.binding?_eq_find?,
            Scope.candidates, List.flatMap_nil, List.append_nil] at hfound
          rw [List.find?_append, hfound]
        have hmem : found ∈ bs :=
          List.append_subset.mpr ⟨hf, hadded⟩ (List.mem_of_find?_eq_some hfind)
        have hprefix := List.find?_some hfind
        exact congrArg some (hbs found hmem b hb (beq_iff_eq.mp hprefix))
      · exact ⟨rfl, List.append_subset.mpr ⟨hadded, hbinding⟩⟩

/-- Copies of attributes have the namespaces and local names of the attributes. -/
theorem copiedAttributes_names (hadded : added ⊆ bs) {as : List Attribute}
    (has : (as.filterMap fun a => a.name.binding) ⊆ bs) :
    (copiedAttributes [f] added as).1.map (fun a => (a.name.uri?, a.name.localName))
      = as.map fun a => (a.name.uri?, a.name.localName) := by
  induction as generalizing added with
  | nil => rfl
  | cons a as ih =>
    have hfirst : a.name.binding.toList ⊆ bs := fun b hb =>
      has (List.mem_filterMap.mpr ⟨a, List.mem_cons_self, Option.mem_toList.mp hb⟩)
    have hrest : (as.filterMap fun a => a.name.binding) ⊆ bs := fun b hb => by
      obtain ⟨a', ha', hb⟩ := List.mem_filterMap.mp hb
      exact has (List.mem_filterMap.mpr ⟨a', List.mem_cons_of_mem a ha', hb⟩)
    obtain ⟨huri, hadded'⟩ := copiedBinding_uri hbs hf hadded hfirst
    have hname : ∀ b : Option Binding, ({ a.unexpanded with
        name := { a.name with binding := b } } : Attribute).name.uri? = b.map (·.uri) :=
      fun _ => rfl
    unfold copiedAttributes
    dsimp only
    rw [List.map_cons, List.map_cons, ih hadded' hrest, hname, huri]
    rfl

end

/-- A copy carries the directives that are carried by what it is a copy of. -/
theorem Element.names_waiting_standalone {e : Element} (h : Unambiguous e.tag.bindings) :
    e.standalone.tag.waiting.map (·.1) = e.tag.waiting.map (·.1) := by
  have hnames : ∀ t : Tag, t.waiting.map (·.1)
      = ((t.attributes.map fun a => (a.name.uri?, a.name.localName)).filter
          fun n => n.1 == some standardUri).map (·.2) := by
    intro t
    unfold Tag.waiting
    rw [List.map_map, List.filter_map, List.map_map]
    rfl
  obtain ⟨htag, hattributes⟩ := List.append_subset.mp (List.Subset.refl e.tag.bindings)
  obtain ⟨hdeclarations, hown⟩ := List.append_subset.mp htag
  obtain ⟨-, hadded⟩ := copiedBinding_uri (f := ⟨e.tag.declarations, none⟩) h hdeclarations
    (List.nil_subset _) hown
  rw [hnames, hnames]
  exact congrArg _ (congrArg _ (copiedAttributes_names h hdeclarations hadded hattributes))

end Xml

/-- The site of an element whose definitions have been made and whose condition is true. -/
def Site.afterCondition (site : Site) (locals : Entries) : Site :=
  ⟨(site.element.without .define).without .condition, site.scope, locals⟩

/-- The copy that a repetition makes of an element. The directives that come before are gone, and
so is the repetition. -/
def Xml.Element.loopCopy (e : Element) : Element :=
  (((e.without .define).without .condition).without .repetition).standalone

/-- No copy defines, asks a condition or repeats. -/
theorem Xml.Element.lookup_loopCopy {e : Element} (h : Unambiguous e.tag.bindings)
    {d : Directive} (hd : d ∈ [Directive.define, .condition, .repetition]) :
    e.loopCopy.tag.waiting.lookup d.tag = none := by
  have hsubset : (((e.without .define).without .condition).without .repetition).tag.bindings
      ⊆ e.tag.bindings :=
    List.Subset.trans (Element.bindings_without_subset _ _)
      (List.Subset.trans (Element.bindings_without_subset _ _)
        (Element.bindings_without_subset _ _))
  have hnames := Element.names_waiting_standalone fun b hb c hc => h b (hsubset hb) c (hsubset hc)
  have hgone : (((e.without .define).without .condition).without .repetition).tag.waiting.lookup
      d.tag = none := by
    rw [Element.lookup_without, Element.lookup_without, Element.lookup_without]
    simp only [List.mem_cons, List.not_mem_nil, or_false] at hd
    rcases hd with rfl | rfl | rfl <;> simp
  have hall : ∀ n ∈ e.loopCopy.tag.waiting.map (·.1), (d.tag != n) = true := by
    rw [show e.loopCopy.tag.waiting.map (·.1) = _ from hnames, List.forall_mem_map]
    exact List.lookup_eq_none_iff.mp hgone
  exact List.lookup_eq_none_iff.mpr (List.forall_mem_map.mp hall)

/-! ### What comes before the copies -/

section

variable {ev : Expr.Evaluator} {walk : Walk} {site : Site} {raw : String} {s s' : RunState}

/-- What is handled before the repetition leaves an element that does not carry it any more, or
removes the element. -/
theorem handleDirectives_before_repetition {permitted : Call → Bool} {ds : List Directive}
    {progress : Progress} {left : List (String × String)}
    (hds : ∀ d ∈ ds, d = .define ∨ d = .condition)
    (h : (handleDirectives permitted ev walk site site.element.tag.waiting ds).Gives s
      (progress, left) s') :
    (∃ gone, progress = .done (.becomes gone [])) ∨
      ∃ locals, progress = .on ⟨ds.foldl Element.without site.element, site.scope, locals⟩ ∧
        left = (ds.foldl Element.without site.element).tag.waiting := by
  -- The directives that wait are at any time those that the element carries.
  induction ds generalizing site s with
  | nil =>
    obtain ⟨hprogress, -⟩ := handleDirectives_nil_gives_iff.mp h
    cases hprogress
    exact .inr ⟨site.locals, rfl, rfl⟩
  | cons d ds ih =>
    obtain ⟨hd, hds⟩ := List.forall_mem_cons.mp hds
    rw [List.foldl_cons]
    obtain ⟨hnone, h⟩ | ⟨raw, reply, s₁, hraw, -, hhandle, h⟩ :=
      handleDirectives_cons_gives_iff.mp h
    · rw [Element.without_of_not_waiting hnone]
      exact ih hds h
    · have helement : (site.without d).element = site.element.without d :=
        (Element.without_of_waiting hraw).symm
      rcases Directive.reply_before_repetition hd hhandle with ⟨locals, rfl⟩ | rfl
      · rw [helement] at h
        rw [← Element.waiting_without] at h
        exact ih hds h
      · cases h.1
        exact .inl ⟨_, rfl⟩

end

/-- Handles what comes before the repetition on an element: its definitions and its condition. -/
abbrev handleFront (ev : Expr.Evaluator) (walk : Walk) (site : Site) :
    Run (Progress × List (String × String)) :=
  handleTags .standard ev walk site site.element.tag.waiting
    [Directive.define.tag, Directive.condition.tag]

/-- How an element with a repetition is processed: the items that there is a copy for, and the
content that stands for the element. -/
inductive RepeatsTo (ev : Expr.Evaluator) (walk : Walk) (site : Site) (raw : String)
    (a : NamedExpression) (s : RunState) : List Value → List Node → RunState → Prop where
  /-- Its condition is not true, and nothing stands for it. -/
  | dropped {gone : Element} {left : List (String × String)} {s₁ : RunState} :
    (handleFront ev walk site).Gives s (.done (.becomes gone []), left) s₁ →
    RepeatsTo ev walk site raw a s [] [] s₁
  /-- Its definitions are made and its condition is true. Then the expression is evaluated, and
  there is a copy for every item of the value, unless that is not true. -/
  | unrolled {locals : Entries} {left : List (String × String)} {s₁ s₂ s₃ : RunState} {v : Value}
      {items : List Value} {content : List Node} :
    (handleFront ev walk site).Gives s (.on (site.afterCondition locals), left) s₁ →
    (evaluateIn ev locals a.expression).Gives
      (s₁.noting [(site.afterCondition locals).announcement .repetition raw]) v s₂ →
    (if v.truth then v.items? = some items else items = []) →
    Unrolls walk site.element.loopCopy locals a.name items.length 0 items s₂ content s₃ →
    RepeatsTo ev walk site raw a s items content s₃

/-- Without items nothing stands for the element. -/
theorem RepeatsTo.content_of_nil {ev : Expr.Evaluator} {walk : Walk} {site : Site} {raw : String}
    {a : NamedExpression} {s s' : RunState} {content : List Node}
    (h : RepeatsTo ev walk site raw a s [] content s') : content = [] := by
  cases h with
  | dropped => rfl
  | unrolled hfront hvalue hitems hcopies => exact hcopies.of_nil.1

/-- An element with a repetition has the content of its copies for a reply. -/
theorem standardWalk_repeats {ev : Expr.Evaluator} {fuel : Nat} {site : Site} {raw : String}
    {a : NamedExpression} {s s' : RunState} {reply : Reply}
    (hraw : site.element.tag.waiting.lookup Directive.repetition.tag = some raw)
    (hparse : NamedExpression.parse? isVariableChar raw = some a) (hname : a.name ≠ "repeat")
    (hrun : (standardWalk ev fuel site).Gives s reply s') :
    ∃ items, RepeatsTo ev (standardWalk ev fuel) site raw a s items reply.content s' := by
  rw [standardWalk_eq] at hrun ⊢
  cases fuel with
  | zero => exact (gives_throw_iff.mp hrun).elim
  | succ fuel =>
    -- What the copies can do with less nesting allowed they can do here, too.
    have hdeeper : ∀ site, (permittedWalk (fun _ => true) ev fuel site).Within
        (permittedWalk (fun _ => true) ev (fuel + 1) site) :=
      permittedWalk_within (fun _ hc => hc) (Nat.le_succ fuel)
    obtain ⟨progress, left, s₁, hdirectives, hrest⟩ := permittedWalk_succ_gives_iff.mp hrun
    replace hdirectives := (handleTags_within (fun _ hc => hc) hdeeper _ _ _).gives hdirectives
    have hall : Directive.all = [.define, .condition]
        ++ .repetition :: [.content, .replace, .attributes, .omitTag] := rfl
    rw [hall] at hdirectives
    obtain ⟨reached, left₁, s₂, hfront, hthen⟩ :=
      handleDirectives_append_gives_iff.mp hdirectives
    have hreached := handleDirectives_before_repetition (by decide) hfront
    unfold handleDirectives at hfront
    rw [permitting_true] at hfront
    rcases hreached with ⟨gone, rfl⟩ | ⟨locals, rfl, rfl⟩
    · obtain ⟨hdone, rfl⟩ := hthen
      cases hdone
      obtain ⟨rfl, rfl⟩ := hrest
      exact ⟨[], .dropped hfront⟩
    · have hwaits : ((site.afterCondition locals).element.tag.waiting).lookup
          Directive.repetition.tag = some raw := by
        unfold Site.afterCondition
        rw [Element.lookup_without, Element.lookup_without, if_neg (by decide), if_neg (by decide),
          hraw]
      obtain ⟨hnone, -⟩ | ⟨raw', reply', s₃, hraw', -, hhandle, hthen⟩ :=
        handleDirectives_cons_gives_iff.mp hthen
      · exact absurd (hwaits.symm.trans hnone) (Option.some_ne_none raw)
      · obtain rfl : raw = raw' := Option.some.inj (hwaits.symm.trans hraw')
        obtain ⟨v, s₄, items, results, hv, hitems, rfl, hcopies⟩ :=
          repetition_unrolls hparse hname hhandle
        obtain ⟨hdone, rfl⟩ := hthen
        cases hdone
        obtain ⟨rfl, rfl⟩ := hrest
        have hcopy : ((site.afterCondition locals).without .repetition).element.standalone
            = site.element.loopCopy :=
          congrArg Element.standalone (Element.without_of_waiting hwaits).symm
        refine ⟨items, .unrolled hfront hv hitems ?_⟩
        rw [← hcopy]
        exact hcopies

/-- A repetition is unrolled. Wherever an element with a repetition stands, what stands there
after it has been processed is what processing returns for its copies, one after the other for all
items, each with the globals that the copies before it left. The copies are made of the element
once its definitions, its condition and its repetition are gone, so none has them. The text that
was behind the element is behind the last copy, once. Without items, as when the value is
undefined, only that text remains. -/
theorem repeat_unrolls {ev : Expr.Evaluator} {fuel : Nat} {locals : Entries} {root : Element}
    {scope : Scope} {path : List Nat} {n : Element} {tailText : List Node} {outer : Scope}
    {raw : String} {a : NamedExpression} {s s' : RunState} {placed : Placed}
    (hnode : Sight.descend? ⟨root.toNode, [], scope⟩ path = some ⟨n.toNode, tailText, outer⟩)
    (hraw : n.tag.waiting.lookup Directive.repetition.tag = some raw)
    (hparse : NamedExpression.parse? isVariableChar raw = some a) (hname : a.name ≠ "repeat")
    (hrun : (processAt (standardWalk ev fuel) locals root scope path).Gives s (some placed) s') :
    ∃ (items : List Value) (content : List Node) (s₁ : RunState),
      RepeatsTo ev (standardWalk ev fuel) ⟨n, outer, locals⟩ raw a s items content s₁ ∧
      s₁.SameButMade s' ∧
      (Unambiguous n.tag.bindings → ∀ d ∈ [Directive.define, .condition, .repetition],
        n.loopCopy.tag.waiting.lookup d.tag = none) ∧
      (path = [] → placed.content = content) ∧
      ∀ above i, path = above ++ [i] →
        ∃ (parent : Element) (tail : List Node) (around : Scope) (before behind nodes : List Node),
          Sight.descend? ⟨root.toNode, [], scope⟩ above = some ⟨parent.toNode, tail, around⟩ ∧
          childAt? parent.children i = some ⟨before, n.toNode, tailText ++ behind⟩ ∧
          placed.root = root.replaceAt above
            { parent with children := before ++ nodes ++ tailText ++ behind } ∧
          essence nodes = essence content ∧ (items = [] → nodes = []) := by
  have hcopy : Unambiguous n.tag.bindings → ∀ d ∈ [Directive.define, .condition, .repetition],
      n.loopCopy.tag.waiting.lookup d.tag = none := fun h _ => Element.lookup_loopCopy h
  rcases List.eq_nil_or_concat' path with rfl | ⟨above, i, rfl⟩
  · -- The element is the root, and what stands for it is returned.
    simp only [Sight.descend?, Option.some.injEq, Sight.mk.injEq] at hnode
    obtain ⟨hroot, -, rfl⟩ := hnode
    obtain rfl := Element.toNode_inj.mp hroot
    have halone : (processAlone (standardWalk ev fuel) locals scope root.toNode).Gives s
        placed.content s' :=
      gives_bind_iff.mpr ⟨_, _, hrun, gives_pure_iff.mpr ⟨rfl, rfl⟩⟩
    obtain ⟨reply, hreply, hcontent⟩ := processAlone_element_gives_iff.mp halone
    obtain ⟨items, hrepeats⟩ := standardWalk_repeats hraw hparse hname hreply
    rw [← hcontent] at hrepeats
    refine ⟨items, placed.content, s', hrepeats, .rfl, hcopy, fun _ => rfl, fun above i hpath => ?_⟩
    exact absurd hpath (by simp)
  · -- The element has a parent, in which what is returned for it alone is put in its place.
    obtain ⟨parent, tail, around, ⟨before, node, after⟩, nodes, returned, s₁, hparent, hchild,
      hroot, halone, hs₁, hnodes⟩ := processAt_gives [] hrun
    have hsight := hnode.symm.trans (descend?_child hparent hchild)
    simp only [Option.some.injEq, Sight.mk.injEq] at hsight
    obtain ⟨rfl, rfl, rfl⟩ := hsight
    obtain ⟨reply, hreply, rfl⟩ := processAlone_element_gives_iff.mp halone
    have hafter : after.takeWhile Node.isText ++ after.dropWhile Node.isText = after :=
      List.takeWhile_append_dropWhile
    obtain ⟨items, hrepeats⟩ := standardWalk_repeats hraw hparse hname hreply
    refine ⟨items, reply.content, s₁, hrepeats, hs₁, hcopy, fun hpath => absurd hpath (by simp),
      fun above' i' hpath => ?_⟩
    obtain ⟨rfl, hi⟩ := List.append_inj' hpath rfl
    cases hi
    refine ⟨parent, tail, around, before, after.dropWhile Node.isText, nodes, hparent, ?_, ?_,
      hnodes, fun hnil => ?_⟩
    · rw [hafter, hchild]
    · rw [hroot, List.append_assoc _ _ (after.dropWhile _), hafter]
    · subst hnil
      rw [hrepeats.content_of_nil] at hnodes
      exact essence_eq_nil_iff.mp hnodes

/-- A number of a note, to be repeated over what it calls `m`. -/
def noteNumber : Element where
  tag := ⟨.plain "b", [standardAttribute "repeat" "n m", standardAttribute "content" "n",
    standardAttribute "define" "m numbers", standardAttribute "condition" "m"], [], some 1⟩
  children := []

/-- A note that lists numbers. -/
def numberedNote : Element where
  tag := ⟨.plain "p", [], [], some 1⟩
  children := [.text "all ", noteNumber.toNode, .text " end", .comment "done" (some 1)]

/-- A note whose number is repeated, for two of them. -/
theorem repeat_unrolls_numberedNote :
    ∃ (placed : Placed) (items : List Value) (content nodes : List Node) (s₁ s' : RunState),
      (processAt (standardWalk .standard 3) [] numberedNote [] ([] ++ [0])).Gives twoNumbers
        (some placed) s' ∧
      RepeatsTo .standard (standardWalk .standard 3) ⟨noteNumber, [numberedNote.tag.frame], []⟩
        "n m" ⟨"n", "m"⟩ twoNumbers items content s₁ ∧
      placed.root.children
        = [.text "all "] ++ nodes ++ [.text " end"] ++ [.comment "done" (some 1)] ∧
      essence nodes = essence content ∧ nodes.length = 2 := by
  have hlength : ((processAt (standardWalk .standard 3) [] numberedNote [] ([] ++ [0])).run.run
      twoNumbers).1.toOption.join.map (fun placed => placed.root.children.length) = some 5 := by
    decide +kernel
  obtain ⟨placed, s', hrun⟩ := exists_gives_some (by rw [← Option.isSome_map, hlength]; rfl)
  have hfive : placed.root.children.length = 5 := by
    rw [show (processAt _ _ _ _ _).run.run _ = _ from hrun] at hlength
    exact Option.some.inj hlength
  have hnode : Sight.descend? ⟨numberedNote.toNode, [], []⟩ ([] ++ [0])
      = some ⟨noteNumber.toNode, [.text " end"], [numberedNote.tag.frame]⟩ := rfl
  obtain ⟨items, content, s₁, hrepeats, -, -, -, hplace⟩ := repeat_unrolls hnode
    (show _ = some "n m" by decide +kernel)
    (show _ = some (⟨"n", "m"⟩ : NamedExpression) by decide +kernel) (by decide) hrun
  obtain ⟨parent, tail, around, before, behind, nodes, hparent, hchild, hroot, hnodes, -⟩ :=
    hplace [] 0 rfl
  -- The parent is the note itself, and the number is its first child.
  simp only [Sight.descend?, Option.some.injEq, Sight.mk.injEq] at hparent
  obtain rfl := Element.toNode_inj.mp hparent.1
  have hhole := hchild.symm.trans (show childAt? numberedNote.children 0 = some _ from rfl)
  simp only [Option.some.injEq, Hole.mk.injEq] at hhole
  obtain ⟨rfl, -, hafter⟩ := hhole
  cases hafter
  have hroot' : placed.root.children
      = [.text "all "] ++ nodes ++ [.text " end"] ++ [.comment "done" (some 1)] := by
    rw [hroot, Element.replaceAt]
  refine ⟨placed, items, content, nodes, s₁, s', hrun, hrepeats, hroot', hnodes, ?_⟩
  rw [hroot'] at hfive
  simp only [List.length_append, List.length_cons, List.length_nil] at hfive
  omega

end AttrTemplates
