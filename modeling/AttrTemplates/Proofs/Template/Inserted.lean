import AttrTemplates.Proofs.Template.Undirected
import AttrTemplates.Proofs.Template.Within

/-!
# `AttrTemplates.Proofs.Template.Inserted`: markup inserted by `content` and by `replace`

Both directives insert the same items. What `replace` inserts is finished, but what `content`
inserts becomes the content of an element that stays, and the children of such an element are
processed next. So an inserted element that carries directives is processed as a part of the
template.

`content_inserts_data_iff` says exactly when that does not happen: what was inserted is left alone
just when it carries no directive. `content_processes_insertion` is an insertion with a directive
in it, whose expression is evaluated.

The proof rests on `undirected_of_handlesNothing`: every directive in nodes that are walked is
either handled itself or stands in something that another one takes away, so if none was handled
there was none.
-/

set_option autoImplicit false

namespace AttrTemplates

open Xml Run

/-! ### Runs that handle no directive -/

/-- Whether an event is that a directive is handled. -/
def Event.isHandling : Event → Bool
  | directive .. => true
  | _ => false

namespace Xml

/-- What is noted of the marks of a tag is no handling of a directive. -/
theorem Tag.notes_not_handling (t : Tag) : ∀ e ∈ t.notes, e.isHandling = false := by
  unfold Tag.notes
  split
  · exact fun e he => nomatch he
  · intro e he
    rw [List.mem_singleton.mp he]
    rfl

mutual

/-- By recursion on the node: neither is what is noted of its marks. -/
theorem Node.notes_not_handling : (n : Node) → ∀ e ∈ n.notes, e.isHandling = false
  | .element tag children => by
    rw [Node.notes, List.forall_mem_append]
    exact ⟨tag.notes_not_handling, notesList_not_handling children⟩
  | .comment .. => fun e he => nomatch he
  | .instruction .. => fun e he => nomatch he
  | .reference _ => fun e he => nomatch he
  | .text _ => fun e he => nomatch he

/-- The same for lists of nodes. -/
theorem notesList_not_handling : (ns : List Node) → ∀ e ∈ notesList ns, e.isHandling = false
  | [] => fun e he => nomatch he
  | n :: ns => by
    rw [notesList, List.forall_mem_append]
    exact ⟨Node.notes_not_handling n, notesList_not_handling ns⟩

end

end Xml

namespace RunState

/-- Between two states no directive was handled. -/
def HandlesNothing (s s' : RunState) : Prop :=
  ∃ new, s'.events = s.events ++ new ∧ ∀ e ∈ new, e.isHandling = false

/-- If no directive was handled, none was handled before or after a state on the way. -/
theorem HandlesNothing.split {s t u : RunState} (h : s.HandlesNothing u)
    (hst : s.Grows t) (htu : t.Grows u) :
    s.HandlesNothing t ∧ t.HandlesNothing u := by
  obtain ⟨new, hnew, hnone⟩ := h
  obtain ⟨new₁, hnew₁⟩ := hst
  obtain ⟨new₂, hnew₂⟩ := htu
  -- The notes from beginning to end are those of the two stretches.
  have hsplit : new = new₁ ++ new₂ := by
    rw [hnew₂, hnew₁, List.append_assoc] at hnew
    exact (List.append_cancel_left hnew).symm
  subst hsplit
  obtain ⟨hnone₁, hnone₂⟩ := List.forall_mem_append.mp hnone
  exact ⟨⟨new₁, hnew₁, hnone₁⟩, ⟨new₂, hnew₂, hnone₂⟩⟩

/-- Two stretches in which nothing is handled make one. -/
theorem HandlesNothing.trans {s t u : RunState} (h₁ : s.HandlesNothing t)
    (h₂ : t.HandlesNothing u) : s.HandlesNothing u := by
  obtain ⟨new₁, hnew₁, hnone₁⟩ := h₁
  obtain ⟨new₂, hnew₂, hnone₂⟩ := h₂
  refine ⟨new₁ ++ new₂, ?_, List.forall_mem_append.mpr ⟨hnone₁, hnone₂⟩⟩
  rw [hnew₂, hnew₁, List.append_assoc]

/-- A directive that is announced is handled. -/
theorem not_handlesNothing_of_announcement {s u : RunState} (site : Site) (d : Directive)
    (raw : String) (hgrows : (s.noting [site.announcement d raw]).Grows u) :
    ¬ s.HandlesNothing u := by
  intro h
  obtain ⟨⟨new, hnew, hnone⟩, -⟩ := h.split (s.grows_noting _) hgrows
  obtain rfl := List.append_cancel_left hnew
  exact Bool.noConfusion (hnone _ List.mem_cons_self)

/-- Notes of marks handle nothing. -/
theorem handlesNothing_notes (s : RunState) (ns : List Node) :
    s.HandlesNothing (s.noting (notesList ns)) :=
  ⟨_, rfl, notesList_not_handling ns⟩

/-- Notes of what is left over handle nothing. -/
theorem handlesNothing_leaving (s : RunState) (site : Site) (left : List (String × String)) :
    s.HandlesNothing (s.leaving site left) := by
  unfold leaving
  split
  · exact ⟨[], (List.append_nil _).symm, fun e he => nomatch he⟩
  · refine ⟨_, rfl, fun e he => ?_⟩
    rw [List.mem_singleton.mp he]
    rfl

end RunState

section

variable {permitted : Call → Bool} {ev : Expr.Evaluator}

/-- If no directive was handled then none waited. -/
theorem not_waiting_of_handlesNothing {walk : Walk}
    (hwithin : ∀ site, (walk site).Within (walk site)) {site : Site}
    {waiting : List (String × String)} {ds : List Directive}
    {r : Progress × List (String × String)} {s s' : RunState}
    (h : (handleDirectives permitted ev walk site waiting ds).Gives s r s')
    (hnone : s.HandlesNothing s') : ∀ d ∈ ds, waiting.lookup d.tag = none := by
  induction ds with
  | nil => exact fun d hd => nomatch hd
  | cons d ds ih =>
    obtain ⟨hd, hrest⟩ | ⟨raw, reply, s₁, hraw, hp, hhandle, hrest⟩ :=
      handleDirectives_cons_gives_iff.mp h
    · exact List.forall_mem_cons.mpr ⟨hd, ih hrest⟩
    · -- A directive that waits is announced before it is handled, and notes are never taken back.
      exfalso
      have hgrows₁ := (d.handle_within hwithin).grows hhandle
      have hgrows₂ : s₁.Grows s' := by
        cases reply with
        | stays e locals =>
          exact (handleTags_within (fun _ hc => hc) hwithin _ _ _).grows hrest
        | becomes left items =>
          obtain ⟨-, rfl⟩ := hrest
          exact .rfl
        | opens left =>
          obtain ⟨-, rfl⟩ := hrest
          exact .rfl
      exact RunState.not_handlesNothing_of_announcement site d raw (hgrows₁.trans hgrows₂) hnone

/-- Elements that were undirected if nothing was handled make for nodes that were. -/
private theorem undirected_of_elements {walk : Walk}
    (hwithin : ∀ site, (walk site).Within (walk site))
    (helement : ∀ {tag children scope locals s reply s'},
      (walk ⟨⟨tag, children⟩, scope, locals⟩).Gives s reply s' → s.HandlesNothing s' →
        Undirected [.element tag children])
    {scope : Scope} {locals : Entries} {ns out : List Node} {s s' : RunState}
    (h : (walkNodes walk scope locals ns).Gives s out s') (hnone : s.HandlesNothing s') :
    Undirected ns := by
  induction ns generalizing s out with
  | nil => exact undirected_of_unmarked rfl
  | cons n ns ih =>
    rw [undirected_cons_iff]
    cases n with
    | element tag children =>
      obtain ⟨reply, s₁, here, s₂, rest, hreply, hhere, hrest, rfl⟩ :=
        -- In each of the three stretches nothing is handled, as nothing is in all of them.
        walkNodes_element_gives_iff.mp h
      have hgrows₁ := (hwithin _).grows hreply
      have hgrows₂ := (place_within _ _).grows hhere
      have hgrows₃ := (walkNodes_within hwithin _ _ _).grows hrest
      obtain ⟨hnone₁, hnone⟩ := hnone.split hgrows₁ (hgrows₂.trans hgrows₃)
      exact ⟨helement hreply hnone₁, ih hrest (hnone.split hgrows₂ hgrows₃).2⟩
    | comment | instruction | reference | text =>
      obtain ⟨rest, hrest, rfl⟩ := (walkNodes_other_gives_iff rfl).mp h
      exact ⟨undirected_of_unmarked rfl, ih hrest hnone⟩

/-- Elements in which no directive was handled carried none. -/
theorem undirected_of_permittedWalk {fuel : Nat} {tag : Tag} {children : List Node}
    {scope : Scope} {locals : Entries} {s s' : RunState} {reply : Reply}
    (h : (permittedWalk permitted ev fuel ⟨⟨tag, children⟩, scope, locals⟩).Gives s reply s')
    (hnone : s.HandlesNothing s') : Undirected [.element tag children] := by
  induction fuel generalizing tag children scope locals s reply s' with
  | zero => exact (gives_throw_iff.mp h).elim
  | succ fuel ih =>
    have hwithin : ∀ site, (permittedWalk permitted ev fuel site).Within
        (permittedWalk permitted ev fuel site) :=
      permittedWalk_within (fun _ hc => hc) (Nat.le_refl _)
    obtain ⟨progress, left, s₁, hdirectives, hrest⟩ := permittedWalk_succ_gives_iff.mp h
    have hgrows := (handleTags_within (fun _ hc => hc) hwithin _ _ _).grows hdirectives
    have hrests : s₁.Grows s' := by
      cases progress with
      | done r =>
        obtain ⟨-, rfl⟩ := hrest
        exact .rfl
      | on here =>
        obtain ⟨out, hout, -⟩ := hrest
        exact (s₁.grows_leaving _ _).trans ((walkNodes_within hwithin _ _ _).grows hout)
    -- The element itself has no directive, so its children are processed where they stand.
    have hwaiting := not_waiting_of_handlesNothing hwithin hdirectives
      (hnone.split hgrows hrests).1
    have htag : ∀ w ∈ tag.waiting, Directive.ofTag? w.1 = none := by
      intro w hw
      rw [Directive.ofTag?_eq_none_iff]
      intro d
      exact (bne_iff_ne.mp (List.lookup_eq_none_iff.mp (hwaiting d d.mem_all) w hw)).symm
    obtain ⟨out, hout, rfl⟩ := (permittedWalk_of_not_waiting htag).mp h
    refine undirected_element_iff.mpr ⟨htag, ?_⟩
    have hwalk := (walkNodes_within hwithin _ _ _).grows hout
    exact undirected_of_elements hwithin ih hout (hnone.split (s.grows_noting _) hwalk).2

/-- Nodes in which no directive was handled carried none. -/
theorem undirected_of_handlesNothing {fuel : Nat} {scope : Scope} {locals : Entries}
    {ns out : List Node} {s s' : RunState}
    (h : (walkNodes (permittedWalk permitted ev fuel) scope locals ns).Gives s out s')
    (hnone : s.HandlesNothing s') : Undirected ns :=
  undirected_of_elements (permittedWalk_within (fun _ hc => hc) (Nat.le_refl _))
    undirected_of_permittedWalk h hnone

/-- Walked nodes are left alone just when they carry no directive: none is handled then, and
contexts stay as they are. -/
theorem walkNodes_left_alone_iff {fuel : Nat} {scope : Scope} {locals : Entries}
    {ns out : List Node} {s s' : RunState}
    (h : (walkNodes (permittedWalk permitted ev fuel) scope locals ns).Gives s out s') :
    (out = ns ∧ s.HandlesNothing s' ∧ s'.globals = s.globals) ↔ Undirected ns := by
  constructor
  · rintro ⟨-, hnone, -⟩
    exact undirected_of_handlesNothing h hnone
  · intro hundirected
    obtain ⟨-, rfl, rfl⟩ := (walkNodes_of_undirected_iff hundirected).mp h
    exact ⟨rfl, s.handlesNothing_notes _, s.noting_globals _⟩

/-! ### The content of an element -/

variable {site : Site} {raw : String} {s s' : RunState} {reply : Reply}

/-- An element with no directive but `content` is processed in steps: its content is taken out,
the items come in, what is left over is noted, and the new children are walked. -/
theorem permittedWalk_content_gives_iff {fuel : Nat}
    (hsingle : ∀ d : Directive, site.element.tag.waiting.lookup d.tag
      = if d = .content then some raw else none) :
    (permittedWalk permitted ev (fuel + 1) site).Gives s reply s' ↔
      permitted ⟨ev, .content, raw, site.without .content, s.globals⟩ = true ∧
      ∃ items notes s₀ children s₁ out,
        inserted ev site.locals s.globals raw = some (items, notes) ∧
        (emptyOut site.element.children).Gives
          (s.noting (site.announcement .content raw :: notes)) () s₀ ∧
        (settleAll site.innerScope (site.without .content).element items).Gives s₀ children s₁ ∧
        (walkNodes (permittedWalk permitted ev fuel) site.innerScope site.locals children).Gives
          (s₁.leaving (site.without .content)
            (site.element.tag.waiting.filter fun w => w.1 != Directive.content.tag)) out s' ∧
        reply = .stays ⟨(site.without .content).element.tag, out⟩ site.locals := by
  rw [permittedWalk_succ_gives_iff]
  constructor
  · -- Content is the only directive, so it is the one that is handled first and then no other.
    rintro ⟨progress, left, s₁, hdirectives, hrest⟩
    obtain ⟨hp, first, hcontent, hprogress⟩ :=
      (handleDirectives_single_gives_iff hsingle (Directive.mem_all _)).mp hdirectives
    obtain ⟨items, notes, s₀, children, hitems, hempty, hchildren, rfl⟩ :=
      content_gives_iff.mp hcontent
    cases hprogress
    obtain ⟨out, hout, rfl⟩ := hrest
    rw [RunState.noting_noting] at hempty
    exact ⟨hp, items, notes, s₀, children, s₁, out, hitems, hempty, hchildren, hout, rfl⟩
  · rintro ⟨hp, items, notes, s₀, children, s₁, out, hitems, hempty, hchildren, hout, rfl⟩
    refine ⟨_, _, s₁, (handleDirectives_single_gives_iff hsingle (Directive.mem_all _)).mpr
      ⟨hp, _, content_gives_iff.mpr ⟨items, notes, s₀, children, hitems, ?_, hchildren, rfl⟩,
        rfl⟩, out, hout, rfl⟩
    rw [RunState.noting_noting]
    exact hempty

/-- The marks of children that came in are those of the items. -/
theorem undirected_settled_iff {scope : Scope} {self : Element} {items : List Item}
    {children : List Node} (hitself : ∀ item ∈ items, item.isItself = false)
    (h : (settleAll scope self items).Gives s children s') :
    Undirected children ↔ ∀ item ∈ items, ∀ m ∈ item.marks, m.Undirected := by
  unfold Undirected
  rw [marksList_of_settleAll h, flatMap_marks_resolve hitself]
  simp only [List.mem_flatMap]
  constructor
  · exact fun h item hitem m hm => h m ⟨item, hitem, hm⟩
  · rintro h m ⟨item, hitem, hm⟩
    exact h item hitem m hm

/-- If items are allowed and carry no directive, and are not too deep, then nothing keeps an element
with no directive but `content` from being filled with them. -/
theorem permittedWalk_content_succeeds {items : List Item} {notes : List Event} {fuel : Nat}
    (hsingle : ∀ d : Directive, site.element.tag.waiting.lookup d.tag
      = if d = .content then some raw else none)
    (hitems : inserted ev site.locals s.globals raw = some (items, notes))
    (hpermitted : permitted ⟨ev, .content, raw, site.without .content, s.globals⟩ = true)
    (hall : ∀ item ∈ items, item.Allowed ∧ ∀ m ∈ item.marks, m.Undirected)
    (hfuel : heightList (items.flatMap (Item.standing s.inCopy site.element)) ≤ fuel) :
    (permittedWalk permitted ev (fuel + 1) site).Succeeds s := by
  have hitself := inserted_not_itself hitems
  obtain ⟨s₀, hempty⟩ := emptyOut_succeeds
    (s.noting (site.announcement .content raw :: notes)) site.element.children
  obtain ⟨children, s₁, hchildren⟩ := settleAll_succeeds site.innerScope
    (site.without .content).element s₀ fun item hitem => (hall item hitem).1
  have hundirected : Undirected children :=
    (undirected_settled_iff hitself hchildren).mpr fun item hitem => (hall item hitem).2
  -- The height of the children is known before they come in: only prefixes change on the way.
  have hheight : heightList children ≤ fuel := by
    rw [← heightList_unprefixed, (settleAll_gives hchildren).1,
      (emptyOut_gives hempty).calm.inCopy]
    rw [flatMap_standing_of_not_itself hitself _ _ site.element]
    exact hfuel
  exact succeeds_iff.mpr ⟨_, _, (permittedWalk_content_gives_iff hsingle).mpr
    ⟨hpermitted, items, notes, s₀, children, s₁, children, hitems, hempty, hchildren,
      (walkNodes_of_undirected_iff hundirected).mpr ⟨hheight, rfl, rfl⟩, rfl⟩⟩

/-- Inserted markup is left alone just when it carries no directive. Take an element with no
directive but `content`, and items that it inserts.

Whenever the element is processed, the items come into it adapted to the place, as `replace` would
put them into its own place. They are then the content of the element, no directive in them is
handled and no context changes, exactly if none of them carries a directive. And if none does, then
nothing but illegal text or too deep nesting keeps the element from being processed. -/
theorem content_inserts_data_iff {items : List Item} {notes : List Event}
    (hsingle : ∀ d : Directive, site.element.tag.waiting.lookup d.tag
      = if d = .content then some raw else none)
    (hitems : inserted ev site.locals s.globals raw = some (items, notes)) :
    (∀ {fuel reply s'}, (standardWalk ev fuel site).Gives s reply s' → ∃ children s₁,
      (∀ {left scope t nodes t'}, t.inCopy = s.inCopy →
        ((Reply.becomes left items).place scope).Gives t nodes t' →
          unprefixedList nodes = unprefixedList children) ∧
      (s.noting (site.announcement .content raw :: notes)).SameButMade s₁ ∧
      ((reply = .stays ⟨(site.without .content).element.tag, children⟩ site.locals ∧
          s₁.HandlesNothing s' ∧ s'.globals = s.globals) ↔
        ∀ item ∈ items, ∀ m ∈ item.marks, m.Undirected)) ∧
    ((∀ item ∈ items, item.Allowed ∧ ∀ m ∈ item.marks, m.Undirected) →
      ∀ {fuel}, heightList (items.flatMap (Item.standing s.inCopy site.element)) ≤ fuel →
        (standardWalk ev (fuel + 1) site).Succeeds s) := by
  have hitself := inserted_not_itself hitems
  constructor
  · intro fuel reply s' hrun
    rw [standardWalk_eq] at hrun
    cases fuel with
    | zero => exact (gives_throw_iff.mp hrun).elim
    | succ fuel =>
      obtain ⟨-, items', notes', s₀, children, s₁, out, hitems', hempty, hchildren, hout, rfl⟩ :=
        (permittedWalk_content_gives_iff hsingle).mp hrun
      -- What is inserted depends on the contexts alone.
      obtain ⟨rfl, rfl⟩ : items' = items ∧ notes' = notes := by
        rw [hitems] at hitems'
        cases hitems'
        exact ⟨rfl, rfl⟩
      obtain ⟨hnodes, -, hsettled⟩ := settleAll_gives hchildren
      have hemptied := emptyOut_gives hempty
      have hs₁ := hemptied.trans hsettled
      refine ⟨children, s₁, ?_, hs₁, ?_⟩
      · intro left scope t nodes t' hcopy hplace
        rw [(Reply.place_gives hplace).1, hnodes, hemptied.calm.inCopy, hcopy]
        exact flatMap_standing_of_not_itself hitself _ _ _
      · -- The children are walked whatever they are, so a directive among them is handled.
        have halone := walkNodes_left_alone_iff hout
        have hglobals : s₁.globals = s.globals := hs₁.calm.globals
        rw [RunState.leaving_globals, hglobals] at halone
        rw [← undirected_settled_iff hitself hchildren, ← halone]
        have hgrows := (walkNodes_within (permittedWalk_within (fun _ hc => hc)
          (Nat.le_refl _)) _ _ _).grows hout
        constructor
        · rintro ⟨hreply, hnone, hsame⟩
          cases hreply
          exact ⟨rfl, (hnone.split (s₁.grows_leaving _ _) hgrows).2, hsame⟩
        · rintro ⟨rfl, hnone, hsame⟩
          exact ⟨rfl, (s₁.handlesNothing_leaving _ _).trans hnone, hsame⟩
  · intro hall fuel hfuel
    rw [standardWalk_eq]
    exact permittedWalk_content_succeeds hsingle hitems rfl hall hfuel

end

/-- A paragraph whose content is inserted as markup. -/
def insertingParagraph : Element where
  tag := ⟨.plain "p", [standardAttribute "content" "structure x"], [⟨some "tal", standardUri⟩],
    some 1⟩
  children := []

/-- A state in which `x` is a bold element with some attributes, and `y` a text. -/
def withBold (attributes : List Attribute) : RunState where
  globals := [(.str "x", .node (.alone (.element ⟨.plain "b", attributes, [], none⟩ []))),
    (.str "y", .str "text")]
  events := []
  made := 0
  inCopy := false

/-- Markup with an attribute that is no directive is left alone. -/
theorem content_inserts_colour :
    ∃ (reply : Reply) (s₁ s' : RunState) (children : List Node),
      (standardWalk .standard 9 ⟨insertingParagraph, [], []⟩).Gives
        (withBold [standardAttribute "colour" "red"]) reply s' ∧
      reply = .stays ⟨(Site.without ⟨insertingParagraph, [], []⟩ .content).element.tag, children⟩ []
        ∧ s₁.HandlesNothing s' ∧ s'.globals = (withBold [standardAttribute "colour" "red"]).globals
      := by
  have hsingle : ∀ d : Directive, insertingParagraph.tag.waiting.lookup d.tag
      = if d = .content then some "structure x" else none := by
    intro d
    cases d <;> decide
  have hinserted : (inserted .standard [] (withBold [standardAttribute "colour" "red"]).globals
      "structure x").map (fun p => decide (∀ item ∈ p.1, ∀ m ∈ item.marks, m.Undirected))
        = some true := by decide +kernel
  have hsucceeds : (standardWalk .standard 9 ⟨insertingParagraph, [], []⟩).Succeeds
      (withBold [standardAttribute "colour" "red"]) := by decide +kernel
  obtain ⟨⟨items, notes⟩, hitems, hdecided⟩ := Option.map_eq_some_iff.mp hinserted
  obtain ⟨reply, s', hrun⟩ := succeeds_iff.mp hsucceeds
  -- The three facts that `decide` has found meet in the general theorem.
  obtain ⟨children, s₁, -, -, hiff⟩ := (content_inserts_data_iff hsingle hitems).1 hrun
  obtain ⟨hreply, hnothing, hglobals⟩ := hiff.mpr (of_decide_eq_true hdecided)
  exact ⟨reply, s₁, s', children, hrun, hreply, hnothing, hglobals⟩

/-- Markup with a directive is not: the directive is handled and its expression evaluated, so the
element does not come to the paragraph as it was inserted. -/
theorem content_processes_insertion :
    ∃ items notes reply s',
      inserted .standard [] (withBold [standardAttribute "content" "y"]).globals "structure x"
        = some (items, notes) ∧
      (standardWalk .standard 9 ⟨insertingParagraph, [], []⟩).Gives
        (withBold [standardAttribute "content" "y"]) reply s' ∧
      (items.flatMap Item.marks).map Mark.names = [["content"]] ∧ reply.marks = [] ∧
      .directive standardUri "content" "y" "b" none ∈ s'.events := by
  have hsucceeds : (standardWalk .standard 9 ⟨insertingParagraph, [], []⟩).Succeeds
      (withBold [standardAttribute "content" "y"]) := by decide +kernel
  have hinserted : (inserted .standard [] (withBold [standardAttribute "content" "y"]).globals
      "structure x").map (fun p => (p.1.flatMap Item.marks).map Mark.names)
        = some [["content"]] := by decide +kernel
  have hmarks : ((standardWalk .standard 9 ⟨insertingParagraph, [], []⟩).run.run
      (withBold [standardAttribute "content" "y"])).1.toOption.map Reply.marks = some [] := by
    decide +kernel
  have hevent : .directive standardUri "content" "y" "b" none
      ∈ ((standardWalk .standard 9 ⟨insertingParagraph, [], []⟩).run.run
        (withBold [standardAttribute "content" "y"])).2.events := by decide +kernel
  obtain ⟨reply, s', hrun⟩ := succeeds_iff.mp hsucceeds
  obtain ⟨⟨items, notes⟩, hitems, hnames⟩ := Option.map_eq_some_iff.mp hinserted
  -- What was decided about the run is said of its reply and of its notes.
  unfold Gives at hrun
  rw [hrun] at hmarks hevent
  exact ⟨items, notes, reply, s', hitems, hrun, hnames, Option.some.inj hmarks, hevent⟩

end AttrTemplates
