import AttrTemplates.Proofs.Template.Handling
import AttrTemplates.Proofs.Template.Level

/-!
# `AttrTemplates.Proofs.Template.Blind`: processing does not look at lines

`Walk.Blind` says of a way to process elements that it leads to the same for elements that are the
same but for lines. There is a lemma for each directive, and `processNode_blind` is the induction on
the depth. `Template.process_same`: two templates whose documents are the same but for lines, and for
the version, come to the same with any data (`SameOutcome`).
-/

set_option autoImplicit false

namespace AttrTemplates

open Xml Run

/-! ### Directives -/

/-- A way to process elements does not depend on their lines. -/
def Walk.Blind (walk : Walk) : Prop :=
  ∀ ⦃a b : Site⦄, a.Level b → Abreast Reply.Level (walk a) (walk b)

/-- The scope inside an element is made of its frame, which has no lines. -/
theorem Site.Level.innerScope {a b : Site} (h : a.Level b) : a.innerScope = b.innerScope := by
  have hframe : a.element.tag.frame = b.element.tag.frame := by
    rw [← Tag.frame_unplaced, (Element.mk.inj h.element).1, Tag.frame_unplaced]
  unfold Site.innerScope
  rw [hframe, h.scope]

/-- The children are the same but for lines. -/
theorem Site.Level.children {a b : Site} (h : a.Level b) :
    unplacedList a.element.children = unplacedList b.element.children :=
  (Element.mk.inj h.element).2

section

variable {ev : Expr.Evaluator} {raw : String} {a b : Site} {walk : Walk}

/-- Definitions do not look at the element. -/
theorem makeDefinitions_blind (locals : Entries) (arguments : List String) :
    Abreast Eq (makeDefinitions ev locals arguments) (makeDefinitions ev locals arguments) := by
  induction arguments generalizing locals with
  | nil => exact abreast_pure rfl
  | cons argument arguments ih =>
    refine abreast_lift_bind fun d => abreast_evaluateIn_bind fun v => ?_
    cases d.isGlobal with
    | true =>
      refine (abreast_modify fun s t hst => ?_).bind fun _ _ _ => ih locals
      exact ⟨by rw [hst.globals], hst.events, hst.made, hst.inCopy⟩
    | false => exact ih _

/-- Definitions are made in contexts, and the site goes on with its element. -/
theorem define_blind : Walk.Blind (define ev raw) := by
  intro a b h
  unfold define
  rw [h.locals]
  refine (makeDefinitions_blind _ _).bind ?_
  rintro locals _ rfl
  exact abreast_pure (.stays h.element)

/-- A condition does not look at the element. -/
theorem condition_blind : Walk.Blind (condition ev raw) := by
  intro a b h
  unfold condition
  rw [h.locals]
  refine abreast_evaluateIn_bind fun v => abreast_pure ?_
  cases v.truth with
  | true => exact .stays h.element
  | false => exact .becomes h.element rfl

/-- A copy begins in a state of its own, and what it leaves behind is put back. -/
theorem Run.Abreast.inNewCopy {α β : Type} {Q : α → β → Prop} {r₁ : Run α} {r₂ : Run β}
    (h : Abreast Q r₁ r₂) : Abreast Q (inNewCopy r₁) (inNewCopy r₂) := by
  refine abreast_get.bind fun s t hst => ?_
  have hfresh : RunState.Level { s with made := 0, inCopy := true }
      { t with made := 0, inCopy := true } := ⟨hst.globals, hst.events, rfl, rfl⟩
  refine (abreast_set hfresh).bind fun _ _ _ => h.bind fun x y hxy => ?_
  refine (abreast_modify fun s' t' h' => ?_).bind fun _ _ _ => abreast_pure hxy
  exact ⟨h'.globals, h'.events, hst.made, hst.inCopy⟩

/-- Items that come out of a copy are marked as such, lines or not. -/
theorem map_ofCopy_unplaced (items : List Item) :
    (items.map Item.ofCopy).map Item.unplaced = (items.map Item.unplaced).map Item.ofCopy := by
  rw [List.map_map, List.map_map]
  refine List.map_congr_left fun item _ => ?_
  cases item with
  | text | itself => rfl
  | node n tail origin outer => cases origin <;> rfl

/-- By induction on the items: the copies are the same but for lines, and each is walked. -/
theorem repeatFrom_abreast (hwalk : walk.Blind) {copy copy' : Element}
    (hcopy : copy.unplaced = copy'.unplaced) (locals loops : Entries) (name : String)
    (length index : Nat) (items : List Value) :
    Abreast (fun results results' => results.map Item.unplaced = results'.map Item.unplaced)
      (repeatFrom walk copy locals loops name length index items)
      (repeatFrom walk copy' locals loops name length index items) := by
  induction items generalizing index with
  | nil => exact abreast_pure rfl
  | cons item items ih =>
    have hsite : ∀ context, Site.Level ⟨copy, [], context⟩ ⟨copy', [], context⟩ :=
      fun _ => ⟨hcopy, rfl, rfl⟩
    -- Every copy is made of the element as it was, so all of them are level.
    refine (hwalk (hsite _)).inNewCopy.bind fun reply reply' hreply => ?_
    refine (ih (index + 1)).bind fun rest rest' hrest => abreast_pure ?_
    rw [List.map_append, List.map_append, map_ofCopy_unplaced, map_ofCopy_unplaced, hreply.items,
      hrest]

/-- A loop copies its element, and the copies are the same but for lines. -/
theorem repetition_blind (hwalk : walk.Blind) : Walk.Blind (repetition ev walk raw) := by
  intro a b h
  have hcopy : a.element.standalone.unplaced = b.element.standalone.unplaced := by
    rw [← Element.standalone_unplaced, h.element, Element.standalone_unplaced]
  unfold repetition
  rw [h.locals]
  refine abreast_lift_bind fun x => abreast_evaluateIn_bind fun v => ?_
  refine abreast_ite (abreast_pure (.becomes h.element rfl)) ?_
  cases v.items? with
  | none => exact abreast_throw _
  | some items =>
    refine abreast_lift_bind fun loops => ?_
    exact (repeatFrom_abreast hwalk hcopy _ _ _ _ _ _).bind fun results results' hresults =>
      abreast_pure (.becomes h.element hresults)

/-- Content replaces the children by what does not come from the template. -/
theorem content_blind : Walk.Blind (content ev raw) := by
  intro a b h
  have hstays : ∀ ms ns, unplacedList ms = unplacedList ns →
      Abreast Reply.Level (pure (.stays { a.element with children := ms } b.locals))
        (pure (.stays { b.element with children := ns } b.locals)) := fun ms ns hchildren =>
    abreast_pure (.stays (Element.unplaced_mk (Element.mk.inj h.element).1 hchildren))
  unfold content
  rw [h.locals, h.innerScope]
  refine abreast_lift_bind fun x => abreast_evaluateIn_bind fun v =>
    (emptyOut_abreast h.children).bind fun _ _ _ => ?_
  refine abreast_ite (hstays [] [] rfl) (abreast_ite ?_ ?_)
  · exact abreast_lift_bind fun items => (settleAll_abreast _ h.element rfl).bind hstays
  · exact abreast_lift_bind fun s => abreast_lift_bind fun _ => hstays _ _ rfl

/-- A replacement does not look at the element. -/
theorem replace_blind : Walk.Blind (replace ev raw) := by
  intro a b h
  unfold replace
  rw [h.locals]
  refine abreast_lift_bind fun x => abreast_evaluateIn_bind fun v => ?_
  refine abreast_ite (abreast_pure (.becomes h.element rfl)) (abreast_ite ?_ ?_)
  · exact abreast_lift_bind fun items => abreast_pure (.becomes h.element rfl)
  · exact abreast_lift_bind fun s => abreast_pure (.becomes h.element rfl)

/-! ### Attributes -/

/-- An attribute is set by name and value. -/
theorem setAttribute_abreast (h : a.Level b) (target : Option String × String) (value : String) :
    Abreast (fun e e' => e.unplaced = e'.unplaced) (setAttribute a target value)
      (setAttribute b target value) := by
  obtain ⟨htag, hchildren⟩ := Element.mk.inj h.element
  -- In both elements the same attribute is set on a tag that is the same but for its line.
  have hset : ∀ (t t' : Tag) (name : Name), t.unplaced = t'.unplaced →
      Abreast (fun e e' : Element => e.unplaced = e'.unplaced)
        (pure { a.element with tag := t.withAttribute name value })
        (pure { b.element with tag := t'.withAttribute name value }) := fun t t' name h =>
    abreast_pure (Element.unplaced_mk (Tag.withAttribute_same h name value) hchildren)
  unfold setAttribute
  rw [h.innerScope]
  refine abreast_ite_throw (abreast_ite_throw (abreast_lift_bind fun _ => ?_))
  cases target.1 with
  | none => exact hset _ _ _ htag
  | some uri =>
    dsimp only
    split
    · exact hset _ _ _ htag
    · refine abreast_get.bind fun s t hst => ?_
      rw [hst.made]
      exact (abreast_set (hst.making rfl)).bind fun _ _ _ =>
        hset _ _ _ (Tag.declaring_same htag _)

/-- An attribute is removed by its name. -/
theorem removeAttribute_abreast {e e' : Element} (h : e.unplaced = e'.unplaced)
    (target : Option String × String) :
    Abreast (fun e e' => e.unplaced = e'.unplaced) (liftM (removeAttribute e target))
      (liftM (removeAttribute e' target)) := by
  obtain ⟨htag, hchildren⟩ := Element.mk.inj h
  unfold removeAttribute
  dsimp only
  split
  · exact abreast_throw _
  · exact abreast_pure (Element.unplaced_mk (Tag.withoutAttribute_same htag _) hchildren)

/-- By induction on the arguments: each one sets or removes the same attribute. -/
theorem assignAttributes_abreast (h : a.Level b) (arguments : List String) :
    Abreast (fun e e' => e.unplaced = e'.unplaced) (assignAttributes ev a arguments)
      (assignAttributes ev b arguments) := by
  induction arguments generalizing a b with
  | nil => exact abreast_pure h.element
  | cons argument arguments ih =>
    -- The rest is done on elements that are the same but for lines again.
    have hrest : ∀ e e' : Element, e.unplaced = e'.unplaced →
        Abreast (fun e e' => e.unplaced = e'.unplaced)
          (assignAttributes ev { a with element := e } arguments)
          (assignAttributes ev { b with element := e' } arguments) :=
      fun e e' he => ih ⟨he, h.scope, h.locals⟩
    unfold assignAttributes
    rw [h.innerScope, h.locals]
    rw [h.locals] at hrest
    refine abreast_lift_bind fun x => abreast_lift_bind fun target => abreast_evaluateIn_bind fun v =>
      abreast_ite ?_ ?_
    · exact (removeAttribute_abreast h.element target).bind hrest
    · exact abreast_lift_bind fun s => (setAttribute_abreast h target s).bind hrest

/-- The attributes of a directive are set in the same way, and lines stay what they are. -/
theorem attributes_blind : Walk.Blind (attributes ev raw) := by
  intro a b h
  unfold attributes
  rw [h.locals]
  exact (assignAttributes_abreast h _).bind fun e e' he => abreast_pure (.stays he)

/-! ### Processing -/

/-- By induction on the nodes: each is walked, or kept if it is no element. -/
theorem walkNodes_abreast (hwalk : walk.Blind) (scope : Scope) (locals : Entries)
    {ms ns : List Node} (h : unplacedList ms = unplacedList ns) :
    Abreast (fun ms ns => unplacedList ms = unplacedList ns) (walkNodes walk scope locals ms)
      (walkNodes walk scope locals ns) := by
  induction ms generalizing ns with
  | nil =>
    cases ns with
    | nil => exact abreast_pure rfl
    | cons n ns => cases h
  | cons m ms ih =>
    cases ns with
    | nil => cases h
    | cons n ns =>
      obtain ⟨hmn, hrest⟩ := List.cons.inj h
      have hkept : Abreast (fun ms ns => unplacedList ms = unplacedList ns)
          (walkNodes walk scope locals ms >>= fun rest => pure (m :: rest))
          (walkNodes walk scope locals ns >>= fun rest => pure (n :: rest)) := by
        refine (ih hrest).bind fun out out' hout => abreast_pure ?_
        rw [unplacedList, unplacedList, hmn, hout]
      -- Nodes that are the same but for positions have the same constructor. Only elements are
      -- walked.
      cases m with
      | element tag children =>
        cases n with
        | element tag' children' =>
          obtain ⟨htag, hchildren⟩ := Node.element.inj hmn
          have hsite : Site.Level ⟨⟨tag, children⟩, scope, locals⟩ ⟨⟨tag', children'⟩, scope, locals⟩ :=
            ⟨Element.unplaced_mk htag hchildren, rfl, rfl⟩
          refine (hwalk hsite).bind fun reply reply' hreply => ?_
          refine (hreply.place_abreast scope).bind fun here here' hhere => ?_
          refine (ih hrest).bind fun out out' hout => abreast_pure ?_
          rw [unplacedList_append, unplacedList_append, hhere, hout]
        | comment | instruction | reference | text => cases hmn
      | comment | instruction | reference | text =>
        cases n with
        | element => cases hmn
        | comment | instruction | reference | text => exact hkept

/-- Without its tag an element leaves its children, which are the same but for lines. -/
theorem omitTag_blind (hwalk : walk.Blind) : Walk.Blind (omitTag ev walk raw) := by
  intro a b h
  obtain ⟨htag, -⟩ := Element.mk.inj h.element
  have hbehind : ∀ keep, Abreast Reply.Level (openUnless walk a keep) (openUnless walk b keep) := by
    intro keep
    unfold openUnless
    rw [h.locals, h.innerScope]
    refine abreast_ite (abreast_pure (.stays h.element)) ?_
    exact (walkNodes_abreast hwalk _ _ h.children).bind fun ms ns hchildren =>
      abreast_pure (.opens (Element.unplaced_mk htag hchildren))
  rw [omitTag_eq, omitTag_eq, h.locals]
  exact abreast_ite (hbehind false) (abreast_evaluateIn_bind fun v => hbehind (!v.truth))

/-- No directive depends on lines. -/
theorem Directive.handle_blind (hwalk : walk.Blind) (d : Directive) :
    Walk.Blind fun site => d.handle ev walk raw site := by
  cases d with
  | define => exact define_blind
  | condition => exact condition_blind
  | repetition => exact repetition_blind hwalk
  | content => exact content_blind
  | replace => exact replace_blind
  | attributes => exact attributes_blind
  | omitTag => exact omitTag_blind hwalk

/-- A language whose directives do not depend on lines. -/
def Language.Blind (l : Language) : Prop :=
  ∀ ev walk, Walk.Blind walk → ∀ tag raw, Walk.Blind (l.handle ev walk tag raw)

/-- The standard language handles the seven directives, each of them blind. -/
theorem Language.standard_blind : Language.standard.Blind := by
  intro ev walk hwalk tag raw a b h
  unfold standard
  dsimp only
  split
  · exact Directive.handle_blind hwalk _ h
  · exact abreast_throw _

/-- The note on a directive has a line, and the handling does not depend on it. -/
theorem handleTags_abreast {l : Language} (hl : l.Blind) (hwalk : walk.Blind) (h : a.Level b)
    (waiting : List (String × String)) (tags : List String) :
    Abreast (fun p q => p.1.Level q.1 ∧ p.2 = q.2) (handleTags l ev walk a waiting tags)
      (handleTags l ev walk b waiting tags) := by
  induction tags generalizing a b waiting with
  | nil => exact abreast_pure ⟨.on h, rfl⟩
  | cons tag tags ih =>
    obtain ⟨htag, hchildren⟩ := Element.mk.inj h.element
    unfold handleTags
    cases waiting.lookup tag with
    | none => exact ih h waiting
    | some raw =>
      have hsite : ∀ key, Site.Level
          { a with element := { a.element with tag := a.element.tag.withoutAttribute key } }
          { b with element := { b.element with tag := b.element.tag.withoutAttribute key } } :=
        fun key => ⟨Element.unplaced_mk (Tag.withoutAttribute_same htag key) hchildren, h.scope,
          h.locals⟩
      have hname : a.element.tag.name = b.element.tag.name := (Tag.mk.inj htag).1
      -- The line is in the note alone. The directive is handled without its attribute.
      refine (abreast_note ?_).bind fun _ _ _ => ?_
      · show Event.directive l.uri tag raw a.element.tag.name.written none = _
        rw [hname]
        rfl
      · refine (hl ev walk hwalk tag raw (hsite _)).bind fun reply reply' hreply => ?_
        cases hreply with
        | @stays e e' locals he =>
          have hstays : Site.Level { a with element := e, locals } { b with element := e', locals } :=
            ⟨he, h.scope, rfl⟩
          exact ih hstays _
        | becomes hleft hitems => exact abreast_pure ⟨.done (.becomes hleft hitems), rfl⟩
        | opens hleft => exact abreast_pure ⟨.done (.opens hleft), rfl⟩

/-- By induction on the languages: each handles what waits for it and reports what is left of that.
-/
theorem handleLanguages_abreast {languages : List Language} (hlanguages : ∀ l ∈ languages, l.Blind)
    (hwalk : walk.Blind) (h : a.Level b) (pending : Pending) :
    Abreast Progress.Level (handleLanguages ev walk a pending languages)
      (handleLanguages ev walk b pending languages) := by
  induction languages generalizing a b pending with
  | nil => exact abreast_pure (.on h)
  | cons l languages ih =>
    obtain ⟨hl, hothers⟩ := List.forall_mem_cons.mp hlanguages
    unfold handleLanguages
    cases pending.lookup l.uri with
    | none => exact ih hothers h pending
    | some waiting =>
      refine (handleTags_abreast hl hwalk h waiting l.tags).bind ?_
      rintro ⟨progress, left⟩ ⟨progress', _⟩ ⟨hprogress, rfl⟩
      cases hprogress with
      | done hreply => exact abreast_pure (.done hreply)
      | @on a' b' h' =>
        have hnext := ih hothers h' (pending.update l.uri left)
        dsimp only
        -- The warning shows the name of the element and no position.
        have hname : a'.element.tag.name = b'.element.tag.name :=
          (Tag.mk.inj (Element.mk.inj h'.element).1).1
        refine abreast_ite ((abreast_note ?_).bind fun _ _ _ => hnext) hnext
        show Event.unhandled (left.map (·.1)) l.uri a'.element.tag.name.written none = _
        rw [hname]
        rfl

/-- An element is processed without regard to lines if the elements below it are. -/
theorem processWith_blind {languages : List Language} (hlanguages : ∀ l ∈ languages, l.Blind)
    (hwalk : walk.Blind) : Walk.Blind (processWith languages ev walk) := by
  intro a b h
  -- What is pending is collected from the attributes, which have no lines.
  have hpending : pendingOn languages a.element.tag = pendingOn languages b.element.tag := by
    unfold pendingOn
    rw [(Tag.mk.inj (Element.mk.inj h.element).1).2.1]
  unfold processWith
  rw [hpending]
  refine (handleLanguages_abreast hlanguages hwalk h _).bind fun progress progress' hprogress => ?_
  cases hprogress with
  | done hreply => exact abreast_pure hreply
  | on h' =>
    dsimp only
    rw [h'.innerScope, h'.locals]
    exact (walkNodes_abreast hwalk _ _ h'.children).bind fun ms ns hchildren =>
      abreast_pure (.stays (Element.unplaced_mk (Element.mk.inj h'.element).1 hchildren))

/-- By induction on the depth: an element is handled by languages that walk its children with one
less. -/
theorem processNode_blind {languages : List Language} (hlanguages : ∀ l ∈ languages, l.Blind)
    (fuel : Nat) : Walk.Blind (processNode languages ev fuel) := by
  induction fuel with
  | zero => exact fun a b _ => abreast_throw _
  | succ fuel ih => exact processWith_blind hlanguages ih

end

/-! ### Documents -/

/-- Which items are nodes does not depend on lines. -/
theorem nodeItems_unplaced (left : Element) (items : List Item) :
    nodeItems left.unplaced (items.map Item.unplaced) = (nodeItems left items).map Item.unplaced := by
  have hresolved : (items.map Item.unplaced).map (Item.resolve left.unplaced)
      = (items.map (Item.resolve left)).map Item.unplaced := by
    rw [List.map_map, List.map_map]
    exact List.map_congr_left fun item _ => item.resolve_unplaced left
  unfold nodeItems
  rw [hresolved, List.filter_map]
  refine congrArg (List.map Item.unplaced) (List.filter_congr fun item _ => ?_)
  cases item <;> rfl

/-- Text items have no lines. -/
theorem textItems_unplaced (items : List Item) :
    textItems (items.map Item.unplaced) = textItems items := by
  induction items with
  | nil => rfl
  | cons item items ih =>
    cases item with
    | text s => exact congrArg (s.toList ++ ·) ih
    | node | itself => exact ih

/-- Items that are the same but for lines are one node in both cases, or in neither. -/
theorem exists_sole_node {items items' : List Item}
    (h : items.map Item.unplaced = items'.map Item.unplaced) {n : Node} {tail : List Node}
    {origin : Origin} {outer : Scope} (hitems : items = [.node n tail origin outer]) :
    ∃ n' tail', items' = [.node n' tail' origin outer] ∧ n.unplaced = n'.unplaced ∧
      unplacedList tail = unplacedList tail' := by
  rw [hitems] at h
  obtain ⟨item, _, rfl, hitem, hrest⟩ := List.map_eq_cons_iff.mp h.symm
  obtain rfl := List.map_eq_nil_iff.mp hrest
  cases item with
  | text | itself => cases hitem
  | node n' tail' origin' outer' =>
    obtain ⟨hn, htail, rfl, rfl⟩ := Item.node.inj hitem
    exact ⟨n', tail', rfl, hn.symm, htail.symm⟩

/-- The document with a node for its root is the same but for lines, wherever the node comes from.
-/
theorem Origin.document_same {d d' : Document} (hd : d.SameTree d') {n n' : Node}
    (hn : n.unplaced = n'.unplaced) {tail tail' : List Node}
    (htail : unplacedList tail = unplacedList tail') (outer : Scope) (origin : Origin) :
    (origin.document d n tail outer).SameTree (origin.document d' n' tail' outer) := by
  cases origin with
  | here => exact ⟨hd.opening, hd.doctype, rfl, hn, htail, rfl, rfl⟩
  | copy | other => exact ⟨rfl, rfl, rfl, hn, htail, rfl, rfl⟩

/-- The root of the result is found among the same items, or missing in the same way. -/
theorem rootFrom_same {d d' : Document} (hd : d.SameTree d') {root root' left left' : Element}
    (hroot : root.unplaced = root'.unplaced) (hleft : left.unplaced = left'.unplaced)
    {items items' : List Item} (hitems : items.map Item.unplaced = items'.map Item.unplaced) :
    SameResult Document.SameTree (rootFrom d root left items) (rootFrom d' root' left' items') := by
  have hnodes : (nodeItems left items).map Item.unplaced
      = (nodeItems left' items').map Item.unplaced := by
    rw [← nodeItems_unplaced, hleft, hitems, nodeItems_unplaced]
  have htexts : textItems items = textItems items' := by
    rw [← textItems_unplaced, hitems, textItems_unplaced]
  have hlength : (nodeItems left items).length = (nodeItems left' items').length := by
    rw [← List.length_map Item.unplaced, hnodes, List.length_map]
  unfold rootFrom
  dsimp only
  rw [htexts]
  split
  · rename_i hsole hblank
    obtain ⟨n', tail', hsole', hn, htail⟩ := exists_sole_node hnodes hsole
    rw [hsole', hblank]
    exact .succeeds (Origin.document_same hd hn htail _ _)
  · rename_i hnot
    -- The other document cannot have a sole node either: the relation is symmetric.
    split
    · rename_i hsole hblank
      obtain ⟨n', tail', hsole', -, -⟩ := exists_sole_node hnodes.symm hsole
      exact (hnot _ _ _ _ hsole' hblank).elim
    · refine .fails ?_
      show Failure.rootReplaced root.tag.name.written _ none = _
      rw [hlength, (Tag.mk.inj (Element.mk.inj hroot).1).1]
      rfl

/-- A template processes the root of its document and puts the result in its place. -/
theorem Template.processDocument_abreast {languages : List Language} {ev : Expr.Evaluator}
    {source source' : Option Source} (hlanguages : ∀ l ∈ languages, l.Blind) {d d' : Document}
    (hd : d.SameTree d') :
    Abreast Document.SameTree (Template.processDocument ⟨source, languages, ev⟩ d)
      (Template.processDocument ⟨source', languages, ev⟩ d') := by
  obtain ⟨version, opening, doctype?, heading, root, tail, outer, closing⟩ := d
  obtain ⟨version', opening', doctype?', heading', root', tail', outer', closing'⟩ := d'
  have hroot : root.unplaced = root'.unplaced := hd.root
  unfold processDocument
  dsimp only
  cases root with
  | element tag children =>
    cases root' with
    | comment | instruction | reference | text => cases hroot
    | element tag' children' =>
      obtain ⟨htag, hchildren⟩ := Node.element.inj hroot
      have he : (Element.mk tag children).unplaced = (Element.mk tag' children').unplaced :=
        Element.unplaced_mk htag hchildren
      have hsite : Site.Level ⟨⟨tag, children⟩, [], []⟩ ⟨⟨tag', children'⟩, [], []⟩ := ⟨he, rfl, rfl⟩
      have hwalk : Walk.Blind (processNode languages ev maxNesting) :=
        processNode_blind hlanguages maxNesting
      refine (hwalk hsite).bind fun reply reply' hreply => ?_
      -- If the root stays, all that is around it does. Otherwise its items have to make a document.
      cases hreply with
      | stays he' =>
        exact abreast_pure ⟨hd.opening, hd.doctype, hd.heading,
          congrArg (fun e : Element => e.toNode) he', hd.tail, hd.outer, hd.closing⟩
      | becomes hleft hitems => exact abreast_lift (rootFrom_same hd he hleft hitems)
      | opens hleft =>
        exact abreast_lift (rootFrom_same hd he hleft (Reply.Level.opens hleft).items)
  | comment | instruction | reference | text =>
    cases root' with
    | element => cases hroot
    | comment | instruction | reference | text => exact abreast_pure hd

/-- What two templates come to is the same but for lines, places and versions, and so is what was
noted. -/
structure SameOutcome (x y : Except Failure Document × List Event) : Prop where
  result : SameResult Document.SameTree x.1 y.1
  events : x.2.map Event.unplaced = y.2.map Event.unplaced

/-- Templates whose documents are the same but for lines come to the same. -/
theorem Template.process_same {languages : List Language} {ev : Expr.Evaluator}
    {source source' : Option Source} (hlanguages : ∀ l ∈ languages, l.Blind)
    (hparse : SameResult Document.SameTree (Template.parse ⟨source, languages, ev⟩)
      (Template.parse ⟨source', languages, ev⟩)) (data : Value) :
    SameOutcome (Template.process ⟨source, languages, ev⟩ data)
      (Template.process ⟨source', languages, ev⟩ data) := by
  unfold process
  generalize Template.parse ⟨source, languages, ev⟩ = x at hparse
  generalize Template.parse ⟨source', languages, ev⟩ = y at hparse
  cases hparse with
  | fails hfg => exact ⟨.fails hfg, rfl⟩
  | @succeeds d d' hd =>
    cases hdata : data.entriesIfAny with
    | error f => exact ⟨.fails rfl, rfl⟩
    | ok globals =>
      have hstart : RunState.Level ⟨globals, [], 0, false⟩ ⟨globals, [], 0, false⟩ :=
        ⟨rfl, rfl, rfl, rfl⟩
      obtain ⟨hresult, hstate⟩ :=
        processDocument_abreast hlanguages hd hstart
      exact ⟨hresult, hstate.events⟩

end AttrTemplates
