import AttrTemplates.Proofs.Expr.Notes
import AttrTemplates.Proofs.Template.Arguments
import AttrTemplates.Proofs.Template.Handling
import AttrTemplates.Proofs.Template.Leaves
import AttrTemplates.Proofs.Template.Placement

/-!
# `AttrTemplates.Proofs.Template.Outcomes`: what each directive can do

One theorem for each of the seven directives tells all that it can do when it succeeds, guards
included. They are named after the directive, with `_gives_iff` behind it. What a directive needs
to know before it acts is read off its argument and the two contexts:

* `inserted` are the items that `content` and `replace` insert; the two differ only in where the
  items go,
* `omitted` tells whether `omit-tag` omits the tag.
-/

set_option autoImplicit false

namespace AttrTemplates

open Xml Run

/-- An argument that is well formed is what it was read as. -/
theorem wellFormed_eq_ok_iff {α : Type} {directive argument : String} {o : Option α} {a : α} :
    wellFormed directive argument o = .ok a ↔ o = some a := by
  cases o with
  | none => exact ⟨(fun h => nomatch h), (fun h => nomatch h)⟩
  | some b => exact ⟨fun h => by cases h; rfl, fun h => by cases h; rfl⟩

section

variable {ev : Expr.Evaluator} {walk : Walk} {raw : String} {site : Site} {s s' : RunState}
  {reply : Reply}

/-! ### Definitions -/

/-- Definitions change the context and leave the element. -/
theorem define_gives_iff :
    (define ev raw site).Gives s reply s' ↔ ∃ locals,
      (makeDefinitions ev site.locals (Expr.arguments raw)).Gives s locals s'
        ∧ reply = .stays site.element locals := by
  simp only [define, gives_bind_iff, gives_pure_iff]
  constructor
  · rintro ⟨locals, _, h, rfl, rfl⟩
    exact ⟨locals, h, rfl⟩
  · rintro ⟨locals, h, rfl⟩
    exact ⟨locals, s', h, rfl, rfl⟩

/-- No definitions change nothing. -/
theorem makeDefinitions_nil_gives_iff {locals locals' : Entries} :
    (makeDefinitions ev locals []).Gives s locals' s' ↔ locals' = locals ∧ s' = s :=
  gives_pure_iff

/-- A state in which a name is bound in the global context. -/
def RunState.binding (s : RunState) (name : String) (v : Value) : RunState :=
  { s with globals := s.globals.bind name v }

/-- The first definition binds a name in one of the contexts, and the others see it. -/
theorem makeDefinitions_cons_gives_iff {locals locals' : Entries} {argument : String}
    {arguments : List String} :
    (makeDefinitions ev locals (argument :: arguments)).Gives s locals' s' ↔ ∃ d v s₁,
      Definition.parse? argument = some d ∧ (evaluateIn ev locals d.expression).Gives s v s₁ ∧
        if d.isGlobal then
          (makeDefinitions ev locals arguments).Gives (s₁.binding d.name v) locals' s'
        else (makeDefinitions ev (locals.bind d.name v) arguments).Gives s₁ locals' s' := by
  simp only [makeDefinitions, gives_bind_iff, gives_lift_iff, wellFormed_eq_ok_iff]
  constructor
  · rintro ⟨d, _, ⟨hparse, rfl⟩, v, s₁, hv, h⟩
    refine ⟨d, v, s₁, hparse, hv, ?_⟩
    -- A global definition goes through the state, a local one through the argument.
    cases hglobal : d.isGlobal with
    | true =>
      rw [hglobal] at h
      obtain ⟨_, _, hbind, h⟩ := gives_bind_iff.mp h
      obtain rfl := gives_modify_iff.mp hbind
      exact h
    | false =>
      rw [hglobal] at h
      exact h
  · rintro ⟨d, v, s₁, hparse, hv, h⟩
    refine ⟨d, s, ⟨hparse, rfl⟩, v, s₁, hv, ?_⟩
    cases hglobal : d.isGlobal with
    | true =>
      rw [hglobal] at h
      exact gives_bind_iff.mpr ⟨(), _, gives_modify_iff.mpr rfl, h⟩
    | false =>
      rw [hglobal] at h
      exact h

/-! ### Conditions -/

/-- A condition leaves the element or removes it. -/
theorem condition_gives_iff :
    (condition ev raw site).Gives s reply s' ↔ ∃ v,
      (evaluateIn ev site.locals raw).Gives s v s' ∧
        reply = if v.truth then .stays site.element site.locals else .becomes site.element [] := by
  simp only [condition, gives_bind_iff, gives_pure_iff]
  constructor
  · rintro ⟨v, _, hv, rfl, rfl⟩
    exact ⟨v, hv, rfl⟩
  · rintro ⟨v, hv, rfl⟩
    exact ⟨v, s', hv, rfl, rfl⟩

/-! ### Repetitions -/

/-- The state in which the processing of a copy begins. -/
def RunState.inFreshCopy (s : RunState) : RunState := { s with made := 0, inCopy := true }

/-- A state in which the document is that of another state. -/
def RunState.backIn (s t : RunState) : RunState := { s with made := t.made, inCopy := t.inCopy }

/-- In a new copy a step begins with no prefixes made up, and the state around it gets its own back.
-/
theorem inNewCopy_gives_iff {α : Type} {r : Run α} {a : α} :
    (inNewCopy r).Gives s a s' ↔ ∃ s₁, r.Gives s.inFreshCopy a s₁ ∧ s' = s₁.backIn s := by
  simp only [inNewCopy, gives_bind_iff, gives_get_iff, gives_set_iff, gives_modify_iff,
    gives_pure_iff]
  constructor
  · rintro ⟨_, _, ⟨rfl, rfl⟩, _, _, rfl, _, s₁, h, _, _, rfl, rfl, rfl⟩
    exact ⟨s₁, h, rfl⟩
  · rintro ⟨s₁, h, rfl⟩
    exact ⟨s, s, ⟨rfl, rfl⟩, (), _, rfl, a, s₁, h, (), _, rfl, rfl, rfl⟩

section

variable {copy : Element} {locals loops : Entries} {name : String} {length index : Nat}
  {results : List Item}

/-- No items have no results. -/
theorem repeatFrom_nil_gives_iff :
    (repeatFrom walk copy locals loops name length index []).Gives s results s' ↔
      results = [] ∧ s' = s :=
  gives_pure_iff

/-- A copy is processed for the first item, in a document of its own, and then one for each of
the others. -/
theorem repeatFrom_cons_gives_iff {item : Value} {items : List Value} :
    (repeatFrom walk copy locals loops name length index (item :: items)).Gives s results s' ↔
      ∃ reply s₁ rest,
        (walk ⟨copy, [], loopContext locals loops name item ⟨index, length⟩⟩).Gives
          s.inFreshCopy reply s₁ ∧
        (repeatFrom walk copy locals loops name length (index + 1) items).Gives (s₁.backIn s)
          rest s' ∧
        results = reply.items.map Item.ofCopy ++ rest := by
  simp only [repeatFrom, gives_bind_iff, inNewCopy_gives_iff, gives_pure_iff]
  constructor
  · rintro ⟨reply, _, ⟨s₁, hreply, rfl⟩, rest, _, hrest, rfl, rfl⟩
    exact ⟨reply, s₁, rest, hreply, hrest, rfl⟩
  · rintro ⟨reply, s₁, rest, hreply, hrest, rfl⟩
    exact ⟨reply, _, ⟨s₁, hreply, rfl⟩, rest, s', hrest, rfl, rfl⟩

end

/-- A loop evaluates its items. Without any it removes the element, otherwise it replies with the
results of its copies. -/
theorem repetition_gives_iff :
    (repetition ev walk raw site).Gives s reply s' ↔ ∃ a v s₁,
      NamedExpression.parse? isVariableChar raw = some a ∧
        (evaluateIn ev site.locals a.expression).Gives s v s₁ ∧
        if v.truth then ∃ items loops results, v.items? = some items ∧
          enclosingLoops site.locals = .ok loops ∧
          (repeatFrom walk site.element.standalone site.locals loops a.name items.length 0
            items).Gives s₁ results s' ∧
          reply = .becomes site.element results
        else reply = .becomes site.element [] ∧ s' = s₁ := by
  simp only [repetition, gives_bind_iff, gives_lift_iff, wellFormed_eq_ok_iff]
  constructor
  · rintro ⟨a, _, ⟨hparse, rfl⟩, v, s₁, hv, h⟩
    refine ⟨a, v, s₁, hparse, hv, ?_⟩
    -- A value that is not true is not asked for its items, so it need not have any.
    cases htruth : v.truth with
    | false =>
      rw [htruth] at h
      exact gives_pure_iff.mp h
    | true =>
      rw [htruth] at h
      simp only [Bool.not_true, Bool.false_eq_true, if_false] at h
      split at h
      · exact (gives_throw_iff.mp h).elim
      · rename_i items hitems
        simp only [gives_bind_iff, gives_lift_iff, gives_pure_iff] at h
        obtain ⟨loops, _, ⟨hloops, rfl⟩, results, _, hresults, rfl, rfl⟩ := h
        exact ⟨items, loops, results, hitems, hloops, hresults, rfl⟩
  · rintro ⟨a, v, s₁, hparse, hv, h⟩
    refine ⟨a, s, ⟨hparse, rfl⟩, v, s₁, hv, ?_⟩
    cases htruth : v.truth with
    | false =>
      rw [htruth] at h
      exact gives_pure_iff.mpr h
    | true =>
      rw [htruth] at h
      obtain ⟨items, loops, results, hitems, hloops, hresults, rfl⟩ := h
      simp only [Bool.not_true, Bool.false_eq_true, if_false, hitems, gives_bind_iff,
        gives_lift_iff, gives_pure_iff]
      exact ⟨loops, s₁, ⟨hloops, rfl⟩, results, s', hresults, rfl, rfl⟩

/-! ### Insertions -/

/-- The items that a value inserts. -/
def Insertion.items (a : Insertion) (v : Value) : Except Failure (List Item) :=
  if v.isUndefined then .ok []
  else if a.asMarkup then fragment v
  else v.written.map fun s => [.text s]

section

variable {P : Item → Prop}
  (hcontent : ∀ origin ns, ∀ item ∈ itemsOfContent origin [] ns, P item)
  (helement : ∀ (e : Element) tail origin, P (.node e.toNode tail origin []))
include hcontent helement

/-- The items of an insertion are a text, or nodes that come from elsewhere. -/
theorem Insertion.forall_items (htext : ∀ s, P (.text s)) {a : Insertion} {v : Value}
    {items : List Item} (h : a.items v = .ok items) : ∀ item ∈ items, P item := by
  unfold Insertion.items at h
  split at h
  · cases h
    exact fun item hitem => nomatch hitem
  · split at h
    · exact forall_fragment hcontent helement v items h
    · cases hv : v.written with
      | error e =>
        rw [hv] at h
        cases h
      | ok t =>
        rw [hv] at h
        cases h
        intro item hitem
        rw [List.mem_singleton.mp hitem]
        exact htext t

end

/-- The items that `content` and `replace` insert, and the notes that finding them leaves. There
are none when finding them fails. -/
def inserted (ev : Expr.Evaluator) (locals globals : Entries) (raw : String) :
    Option (List Item × List Event) :=
  match Insertion.parse? raw with
  | none => none
  | some a =>
    match ev.valueIn locals globals a.expression with
    | (.error _, _) => none
    | (.ok v, notes) =>
      match a.items v with
      | .error _ => none
      | .ok items => some (items, notes)

/-- An insertion is parsed, its value is found, and items are made of it. -/
theorem inserted_eq_some_iff {locals globals : Entries} {items : List Item} {notes : List Event} :
    inserted ev locals globals raw = some (items, notes) ↔ ∃ a v,
      Insertion.parse? raw = some a ∧ ev.valueIn locals globals a.expression = (.ok v, notes) ∧
        a.items v = .ok items := by
  unfold inserted
  constructor
  · intro h
    split at h
    · cases h
    · rename_i a hparse
      split at h
      · cases h
      · rename_i v notes' hv
        split at h
        · cases h
        · rename_i items' hitems
          cases h
          exact ⟨a, v, hparse, hv, hitems⟩
  · rintro ⟨a, v, hparse, hv, hitems⟩
    simp only [hparse, hv, hitems]

/-- Items that are inserted are texts, content that was read, and copies of elements. -/
theorem forall_inserted {P : Item → Prop} (htext : ∀ s, P (.text s))
    (hcontent : ∀ origin ns, ∀ item ∈ itemsOfContent origin [] ns, P item)
    (helement : ∀ (e : Element) tail origin, P (.node e.toNode tail origin []))
    {locals globals : Entries} {items : List Item} {notes : List Event}
    (h : inserted ev locals globals raw = some (items, notes)) : ∀ item ∈ items, P item := by
  obtain ⟨a, v, -, -, hitems⟩ := inserted_eq_some_iff.mp h
  exact Insertion.forall_items hcontent helement htext hitems

/-- What is inserted is told without reference to the element. -/
theorem inserted_not_itself {locals globals : Entries} {items : List Item} {notes : List Event}
    (h : inserted ev locals globals raw = some (items, notes)) :
    ∀ item ∈ items, item.isItself = false :=
  forall_inserted (P := fun item => item.isItself = false) (fun _ => rfl)
    (fun _ _ => itemsOfContent_not_itself) (fun _ _ _ => rfl) h

/-- What `replace` does with the value is to put its items in the place of the element. -/
private theorem replace_tail_eq (a : Insertion) (v : Value) :
    (if v.isUndefined then pure (.becomes site.element [])
      else if a.asMarkup then do
        let items ← (fragment v : Except Failure (List Item))
        pure (.becomes site.element items)
      else do
        let s ← (v.written : Except Failure String)
        pure (.becomes site.element [.text s]) : Run Reply)
    = (liftM (a.items v) : Run (List Item)) >>= fun items =>
        pure (.becomes site.element items) := by
  unfold Insertion.items
  split
  · rfl
  · split
    · rfl
    · cases v.written <;> rfl

/-- What `content` does with the value is to put its items in the element. -/
private theorem content_tail_eq (a : Insertion) (v : Value) :
    (do
      let children ←
        if v.isUndefined then pure []
        else if a.asMarkup then do
          let items ← (fragment v : Except Failure (List Item))
          settleAll site.innerScope site.element items
        else do
          let s ← (v.written : Except Failure String)
          (checkText s : Except Failure Unit)
          pure [.text s]
      pure (.stays { site.element with children } site.locals) : Run Reply)
    = (liftM (a.items v) : Run (List Item)) >>= fun items =>
        settleAll site.innerScope site.element items >>= fun children =>
          pure (.stays { site.element with children } site.locals) := by
  unfold Insertion.items
  split
  · rfl
  · split
    · rfl
    · cases v.written with
      | error e => rfl
      | ok t =>
        show ((liftM (checkText t) : Run Unit) >>= fun _ => pure _)
          = settleAll site.innerScope site.element [.text t] >>= _
        unfold settleAll Item.settle Item.resolve
        -- The text of `content` is checked before it is settled, and settling checks it itself.
        cases hcheck : checkText t with
        | error e =>
          simp only [hcheck]
          rfl
        | ok u =>
          simp only [hcheck]
          rfl

/-- The items that `replace` inserts stand in the place of the element. -/
theorem replace_gives_iff :
    (replace ev raw site).Gives s reply s' ↔ ∃ items notes,
      inserted ev site.locals s.globals raw = some (items, notes) ∧ s' = s.noting notes ∧
        reply = .becomes site.element items := by
  simp only [replace, replace_tail_eq, gives_bind_iff, gives_lift_iff, gives_pure_iff,
    wellFormed_eq_ok_iff, evaluateIn_gives_iff, inserted_eq_some_iff]
  constructor
  · rintro ⟨a, _, ⟨hparse, rfl⟩, v, _, ⟨notes, hv, rfl⟩, items, _, ⟨hitems, rfl⟩, rfl, rfl⟩
    exact ⟨items, notes, ⟨a, v, hparse, hv, hitems⟩, rfl, rfl⟩
  · rintro ⟨items, notes, ⟨a, v, hparse, hv, hitems⟩, rfl, rfl⟩
    exact ⟨a, s, ⟨hparse, rfl⟩, v, _, ⟨notes, hv, rfl⟩, items, _, ⟨hitems, rfl⟩, rfl, rfl⟩

/-- The items that `content` inserts stand in the element, in place of what was there. -/
theorem content_gives_iff :
    (content ev raw site).Gives s reply s' ↔ ∃ items notes s₁ children,
      inserted ev site.locals s.globals raw = some (items, notes) ∧
        (emptyOut site.element.children).Gives (s.noting notes) () s₁ ∧
        (settleAll site.innerScope site.element items).Gives s₁ children s' ∧
        reply = .stays { site.element with children } site.locals := by
  simp only [content, content_tail_eq, gives_bind_iff, gives_lift_iff, gives_pure_iff,
    wellFormed_eq_ok_iff, evaluateIn_gives_iff, inserted_eq_some_iff]
  constructor
  · rintro ⟨a, _, ⟨hparse, rfl⟩, v, _, ⟨notes, hv, rfl⟩, _, s₁, hempty, items, _, ⟨hitems, rfl⟩,
      children, _, hchildren, rfl, rfl⟩
    exact ⟨items, notes, _, children, ⟨a, v, hparse, hv, hitems⟩, hempty, hchildren, rfl⟩
  · rintro ⟨items, notes, s₁, children, ⟨a, v, hparse, hv, hitems⟩, hempty, hchildren, rfl⟩
    exact ⟨a, s, ⟨hparse, rfl⟩, v, _, ⟨notes, hv, rfl⟩, (), s₁, hempty, items, s₁, ⟨hitems, rfl⟩,
      children, s', hchildren, rfl, rfl⟩

/-! ### Attributes -/

/-- The directive for attributes changes the element and keeps the context. -/
theorem attributes_gives_iff :
    (attributes ev raw site).Gives s reply s' ↔ ∃ e,
      (assignAttributes ev site (Expr.arguments raw)).Gives s e s' ∧
        reply = .stays e site.locals := by
  simp only [attributes, gives_bind_iff, gives_pure_iff]
  constructor
  · rintro ⟨e, _, h, rfl, rfl⟩
    exact ⟨e, h, rfl⟩
  · rintro ⟨e, h, rfl⟩
    exact ⟨e, s', h, rfl, rfl⟩

/-- No assignments change nothing. -/
theorem assignAttributes_nil_gives_iff {e : Element} :
    (assignAttributes ev site []).Gives s e s' ↔ e = site.element ∧ s' = s :=
  gives_pure_iff

/-- An attribute is removed if the value is undefined, and set otherwise. -/
theorem assignAttributes_cons_gives_iff {argument : String} {arguments : List String}
    {e : Element} :
    (assignAttributes ev site (argument :: arguments)).Gives s e s' ↔ ∃ a target v s₁ here s₂,
      NamedExpression.parse? isAttributeChar argument = some a ∧
        attributeTarget site.innerScope a.name = .ok target ∧
        (evaluateIn ev site.locals a.expression).Gives s v s₁ ∧
        (if v.isUndefined then removeAttribute site.element target = .ok here ∧ s₂ = s₁
          else ∃ text, v.written = .ok text ∧
            (setAttribute site target text).Gives s₁ here s₂) ∧
        (assignAttributes ev { site with element := here } arguments).Gives s₂ e s' := by
  simp only [assignAttributes, gives_bind_iff, gives_lift_iff, wellFormed_eq_ok_iff]
  constructor
  · rintro ⟨a, _, ⟨hparse, rfl⟩, target, _, ⟨htarget, rfl⟩, v, s₁, hv, h⟩
    -- Only a value that is set is written as text, and only setting touches the state.
    cases hundefined : v.isUndefined with
    | true =>
      rw [hundefined] at h
      obtain ⟨here, s₂, hremove, h⟩ := gives_bind_iff.mp h
      exact ⟨a, target, v, s₁, here, s₂, hparse, htarget, hv, by
        rw [hundefined]; exact gives_lift_iff.mp hremove, h⟩
    | false =>
      rw [hundefined] at h
      simp only [Bool.false_eq_true, if_false, gives_bind_iff, gives_lift_iff] at h
      obtain ⟨text, _, ⟨htext, rfl⟩, here, s₂, hset, h⟩ := h
      exact ⟨a, target, v, _, here, s₂, hparse, htarget, hv, by
        rw [hundefined]; exact ⟨text, htext, hset⟩, h⟩
  · rintro ⟨a, target, v, s₁, here, s₂, hparse, htarget, hv, hassign, h⟩
    refine ⟨a, s, ⟨hparse, rfl⟩, target, s, ⟨htarget, rfl⟩, v, s₁, hv, ?_⟩
    cases hundefined : v.isUndefined with
    | true =>
      rw [hundefined] at hassign
      exact gives_bind_iff.mpr ⟨here, s₂, gives_lift_iff.mpr hassign, h⟩
    | false =>
      rw [hundefined] at hassign
      obtain ⟨text, htext, hset⟩ := hassign
      exact gives_bind_iff.mpr ⟨text, _, gives_lift_iff.mpr ⟨htext, rfl⟩,
        gives_bind_iff.mpr ⟨here, s₂, hset, h⟩⟩

/-- The prefix of an attribute name in an assignment, and what follows it. -/
def prefixed? (name : String) : Option (String × String) :=
  match name.toList.span (· != ':') with
  | (_, []) => none
  | (p, _ :: localName) => some (String.ofList p, String.ofList localName)

/-- The namespace of a prefix in an assignment. -/
def Xml.Scope.meaning? (scope : Scope) (p : String) : Option String :=
  if p == "xml" then some xmlNamespace else scope.uri? (some p)

/-- The same reading of the name, with its two questions under names of their own. -/
theorem attributeTarget_eq (scope : Scope) (name : String) :
    attributeTarget scope name = match prefixed? name with
      | none => .ok (none, name)
      | some (p, localName) =>
        match scope.meaning? p with
        | some uri => .ok (some uri, localName)
        | none => .error (.unknownPrefix p) := by
  unfold attributeTarget prefixed? Scope.meaning?
  generalize name.toList.span (· != ':') = parts
  rcases parts with ⟨front, _ | ⟨_, behind⟩⟩ <;> rfl

/-- A name with a prefix lies in the namespace of the prefix, any other in none. -/
theorem attributeTarget_eq_ok_iff {scope : Scope} {name : String}
    {target : Option String × String} :
    attributeTarget scope name = .ok target ↔
      (prefixed? name = none ∧ target = (none, name)) ∨
      ∃ p uri, prefixed? name = some (p, target.2) ∧ scope.meaning? p = some uri ∧
        target.1 = some uri := by
  obtain ⟨uri?, l⟩ := target
  rw [attributeTarget_eq]
  cases prefixed? name with
  | none =>
    constructor
    · intro h
      cases h
      exact .inl ⟨rfl, rfl⟩
    · rintro (⟨-, h⟩ | ⟨p, uri, h, -⟩)
      · rw [h]
      · cases h
  | some q =>
    obtain ⟨p, localName⟩ := q
    constructor
    · intro h
      -- A prefix without meaning is a failure.
      cases huri : scope.meaning? p with
      | none =>
        simp only [huri] at h
        cases h
      | some uri =>
        simp only [huri] at h
        cases h
        exact .inr ⟨p, uri, rfl, huri, rfl⟩
    · rintro (⟨h, -⟩ | ⟨p', uri, h, huri, rfl⟩)
      · cases h
      · cases h
        simp only [huri]

/-- The tag of an element on which an attribute has been set, and the number of prefixes made
up. -/
def taggedWith (site : Site) (target : Option String × String) (value : String)
    (made : Prefixes) : Tag × Prefixes :=
  let t := site.element.tag
  match target.1 with
  | none => (t.withAttribute (.plain target.2) value, made)
  | some uri =>
    match site.innerScope.bindingFor? uri true with
    | some b => (t.withAttribute ⟨some b, target.2⟩ value, made)
    | none =>
      let (b, made) := newBinding site.innerScope none uri made
      let declaring := { t with declarations := t.declarations ++ [b] }
      (declaring.withAttribute ⟨some b, target.2⟩ value, made)

/-- Where an attribute can be set, it is set under a binding that is found or made. -/
private theorem setAttribute_tail_gives_iff {uri? : Option String} {localName value : String}
    {e : Element} :
    (match uri? with
      | none => pure
          { site.element with tag := site.element.tag.withAttribute (.plain localName) value }
      | some uri =>
        match site.innerScope.bindingFor? uri true with
        | some b => pure
            { site.element with tag := site.element.tag.withAttribute ⟨some b, localName⟩ value }
        | none => do
          let s ← get
          let (b, made) := newBinding site.innerScope none uri s.made
          set { s with made }
          let tag := { site.element.tag with
            declarations := site.element.tag.declarations ++ [b] }
          pure { site.element with tag := tag.withAttribute ⟨some b, localName⟩ value } :
      Run Element).Gives s e s' ↔
    e = { site.element with tag := (taggedWith site (uri?, localName) value s.made).1 } ∧
      s' = { s with made := (taggedWith site (uri?, localName) value s.made).2 } := by
  unfold taggedWith
  -- A name without a namespace, one whose namespace has a prefix in scope, and one that needs a new
  -- prefix.
  cases uri? with
  | none => exact gives_pure_iff
  | some uri =>
    cases hb : site.innerScope.bindingFor? uri true with
    | some b =>
      simp only [hb]
      exact gives_pure_iff
    | none =>
      simp only [hb, gives_bind_iff, gives_get_iff, gives_set_iff, gives_pure_iff]
      constructor
      · rintro ⟨_, _, ⟨rfl, rfl⟩, _, _, rfl, rfl, rfl⟩
        exact ⟨rfl, rfl⟩
      · rintro ⟨rfl, rfl⟩
        exact ⟨s, s, ⟨rfl, rfl⟩, (), _, rfl, rfl, rfl⟩

/-- An attribute is removed if its name is not empty. -/
theorem removeAttribute_eq_ok_iff {e here : Element} {target : Option String × String} :
    removeAttribute e target = .ok here ↔ target.2.isEmpty = false ∧
      here = { e with tag := e.tag.withoutAttribute (match target.1 with
        | some uri => attributeKey uri target.2
        | none => target.2) } := by
  obtain ⟨uri?, localName⟩ := target
  unfold removeAttribute
  dsimp only
  cases localName.isEmpty with
  | true => simp
  | false =>
    simp only [Bool.false_eq_true, if_false, Except.ok.injEq, true_and]
    exact eq_comm

/-- An attribute is set if its name is one and a document may hold its value. -/
theorem setAttribute_gives_iff {target : Option String × String} {value : String}
    {e : Element} :
    (setAttribute site target value).Gives s e s' ↔
      isLocalName target.2 = true ∧ checkText value = .ok () ∧
        e = { site.element with tag := (taggedWith site target value s.made).1 } ∧
        s' = { s with made := (taggedWith site target value s.made).2 } := by
  obtain ⟨uri?, localName⟩ := target
  unfold setAttribute
  cases hname : isLocalName localName with
  | false =>
    -- An empty name is refused in a check of its own, any other that is no name behind it.
    refine ⟨fun h => ?_, fun h => nomatch h.1⟩
    dsimp only at h
    split at h
    · obtain ⟨_, _, hthrow, -⟩ := gives_bind_iff.mp h
      exact (gives_throw_iff.mp hthrow).elim
    · rw [hname] at h
      obtain ⟨_, _, hthrow, -⟩ := gives_bind_iff.mp h
      exact (gives_throw_iff.mp hthrow).elim
  | true =>
    have hnonempty : localName.isEmpty = false := by
      rw [Bool.eq_false_iff]
      intro h
      rw [String.isEmpty_iff.mp h] at hname
      cases hname
    dsimp only
    rw [hnonempty, hname]
    constructor
    · intro h
      obtain ⟨_, _, hchecked, hset⟩ := gives_bind_iff.mp h
      obtain ⟨hcheck, rfl⟩ := gives_lift_iff.mp hchecked
      exact ⟨rfl, hcheck, setAttribute_tail_gives_iff.mp hset⟩
    · rintro ⟨-, hcheck, h⟩
      exact gives_bind_iff.mpr
        ⟨(), s, gives_lift_iff.mpr ⟨hcheck, rfl⟩, setAttribute_tail_gives_iff.mpr h⟩

/-! ### Omitted tags -/

/-- Whether `omit-tag` omits the tag, and the notes that finding out leaves. -/
def omitted (ev : Expr.Evaluator) (locals globals : Entries) (raw : String) :
    Option (Bool × List Event) :=
  if (Text.trim raw.toList).isEmpty then some (true, [])
  else match ev.valueIn locals globals raw with
    | (.error _, _) => none
    | (.ok v, notes) => some (v.truth, notes)

/-- A tag that is kept leaves the element to the walker, one that is omitted does not. -/
theorem openUnless_gives_iff {keep : Bool} :
    (openUnless walk site keep).Gives s reply s' ↔
      if keep then reply = .stays site.element site.locals ∧ s' = s
      else ∃ children,
        (walkNodes walk site.innerScope site.locals site.element.children).Gives s children s' ∧
          reply = .opens { site.element with children } := by
  cases keep with
  | true => exact gives_pure_iff
  | false =>
    simp only [openUnless, Bool.false_eq_true, if_false, gives_bind_iff, gives_pure_iff]
    constructor
    · rintro ⟨children, _, hchildren, rfl, rfl⟩
      exact ⟨children, hchildren, rfl⟩
    · rintro ⟨children, hchildren, rfl⟩
      exact ⟨children, s', hchildren, rfl, rfl⟩

/-- Without its tag an element is opened and its children are walked; with it nothing happens. -/
theorem omitTag_gives_iff :
    (omitTag ev walk raw site).Gives s reply s' ↔ ∃ out notes,
      omitted ev site.locals s.globals raw = some (out, notes) ∧
        if out then ∃ children,
          (walkNodes walk site.innerScope site.locals site.element.children).Gives
            (s.noting notes) children s' ∧ reply = .opens { site.element with children }
        else reply = .stays site.element site.locals ∧ s' = s.noting notes := by
  have hbehind : ∀ {out : Bool} {t : RunState}, (openUnless walk site !out).Gives t reply s' ↔
      if out then ∃ children,
        (walkNodes walk site.innerScope site.locals site.element.children).Gives t children s' ∧
          reply = .opens { site.element with children }
      else reply = .stays site.element site.locals ∧ s' = t := by
    intro out t
    rw [openUnless_gives_iff]
    cases out <;> rfl
  rw [omitTag_eq]
  -- A directive without a text is answered at once; otherwise its expression is evaluated first.
  unfold omitted
  split
  · simp only [Option.some.injEq, Prod.mk.injEq]
    constructor
    · intro h
      refine ⟨true, [], ⟨rfl, rfl⟩, ?_⟩
      rw [RunState.noting_nil]
      exact hbehind.mp h
    · rintro ⟨out, notes, ⟨rfl, rfl⟩, h⟩
      rw [RunState.noting_nil] at h
      exact hbehind.mpr h
  · simp only [gives_bind_iff, evaluateIn_gives_iff, hbehind]
    constructor
    · rintro ⟨v, _, ⟨notes, hv, rfl⟩, h⟩
      refine ⟨v.truth, notes, ?_, h⟩
      rw [hv]
    · rintro ⟨out, notes, hout, h⟩
      split at hout
      · cases hout
      · rename_i v new hv
        cases hout
        exact ⟨v, _, ⟨notes, hv, rfl⟩, h⟩

/-! ### Before a repetition -/

/-- A directive that is handled before `repeat` leaves the element as it is, or removes it. -/
theorem Directive.reply_before_repetition {d : Directive} {reply : Reply}
    (hd : d = .define ∨ d = .condition) (h : (d.handle ev walk raw site).Gives s reply s') :
    (∃ locals, reply = .stays site.element locals) ∨ reply = .becomes site.element [] := by
  rcases hd with rfl | rfl
  · obtain ⟨locals, -, rfl⟩ := define_gives_iff.mp h
    exact .inl ⟨locals, rfl⟩
  · obtain ⟨v, -, rfl⟩ := condition_gives_iff.mp h
    split
    · exact .inl ⟨site.locals, rfl⟩
    · exact .inr rfl

/-! ### Elements that stay -/

/-- What an element and its local context are that stay after a directive. `repeat` and `replace` are
missing: what they give takes the place of the element. -/
inductive Directive.StaysAs (ev : Expr.Evaluator) (raw : String) (site : Site) (s s' : RunState) :
    Directive → Element → Entries → Prop
  | define {locals : Entries} :
      (makeDefinitions ev site.locals (Expr.arguments raw)).Gives s locals s' →
        StaysAs ev raw site s s' .define site.element locals
  | condition : StaysAs ev raw site s s' .condition site.element site.locals
  | content (children : List Node) :
      StaysAs ev raw site s s' .content { site.element with children } site.locals
  | attributes {e : Element} : (assignAttributes ev site (Expr.arguments raw)).Gives s e s' →
      StaysAs ev raw site s s' .attributes e site.locals
  | omitTag : StaysAs ev raw site s s' .omitTag site.element site.locals

/-- A directive after which the element stays is one of those that can leave it. -/
theorem Directive.staysAs_of_handle {d : Directive} {e : Element} {locals : Entries}
    (h : (d.handle ev walk raw site).Gives s (.stays e locals) s') :
    d.StaysAs ev raw site s s' e locals := by
  -- Each directive has one reply after which the element stays, or none.
  cases d with
  | define =>
    obtain ⟨_, hmake, hreply⟩ := define_gives_iff.mp h
    cases hreply
    exact .define hmake
  | condition =>
    obtain ⟨_, -, hreply⟩ := condition_gives_iff.mp h
    split at hreply
    · cases hreply
      exact .condition
    · cases hreply
  | repetition =>
    obtain ⟨_, _, _, -, -, hreply⟩ := repetition_gives_iff.mp h
    split at hreply
    · obtain ⟨_, _, _, -, -, -, hreply⟩ := hreply
      cases hreply
    · cases hreply.1
  | content =>
    obtain ⟨_, _, _, children, -, -, -, hreply⟩ := content_gives_iff.mp h
    cases hreply
    exact .content children
  | replace =>
    obtain ⟨_, _, -, -, hreply⟩ := replace_gives_iff.mp h
    cases hreply
  | attributes =>
    obtain ⟨_, hassign, hreply⟩ := attributes_gives_iff.mp h
    cases hreply
    exact .attributes hassign
  | omitTag =>
    obtain ⟨_, _, -, hreply⟩ := omitTag_gives_iff.mp h
    split at hreply
    · obtain ⟨_, -, hreply⟩ := hreply
      cases hreply
    · cases hreply.1
      exact .omitTag

end

end AttrTemplates
