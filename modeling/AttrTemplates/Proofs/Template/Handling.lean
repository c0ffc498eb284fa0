import AttrTemplates.Proofs.Run
import AttrTemplates.Template.Directives

/-!
# `AttrTemplates.Proofs.Template.Handling`: processing in the standard language

Processing an element in the standard language alone has one shape: the directives that wait on
the element are handled in the order of `Directive.all`, each taken off the element first, and if
the element is still there afterwards its children are walked. The theorems here say so without
the bookkeeping for several languages.

* `Tag.waiting` are the attributes in the namespace of the standard language, and `pendingOn_eq`
  says that they are what waits on an element;
* `processNode_gives_iff` takes the processing of an element apart, `handleDirectives_cons_gives_iff`
  the handling of its directives.

Some theorems are about runs in which certain directives are not handled. `Language.permitting`
is the standard language in which all directives fail but those that a condition permits. A run
that goes through in it handles permitted directives only.
-/

set_option autoImplicit false

namespace AttrTemplates

open Xml Run

/-! ### Permitted directives -/

/-- A directive that is about to be handled, with the site it is handled at and the global
context. -/
structure Call where
  evaluator : Expr.Evaluator
  directive : Directive
  raw : String
  site : Site
  globals : Entries

/-- The standard language in which all directives fail that are not permitted. -/
def Language.permitting (permitted : Call → Bool) : Language where
  uri := standardUri
  tags := Directive.all.map Directive.tag
  label := Language.standard.label
  handle ev walk tag raw site :=
    match Directive.ofTag? tag with
    | some d => do
      let s ← get
      if permitted ⟨ev, d, raw, site, s.globals⟩ then d.handle ev walk raw site
      else throw (.template "directive not permitted" none none)
    | none => throw (.missingKey tag)

/-- The way to process an element in the standard language, with permitted directives only. -/
abbrev permittedWalk (permitted : Call → Bool) (ev : Expr.Evaluator) (fuel : Nat) : Walk :=
  processNode [.permitting permitted] ev fuel

/-- The way to process an element in the standard language. -/
abbrev standardWalk (ev : Expr.Evaluator) (fuel : Nat) : Walk := processNode [.standard] ev fuel

/-- With all directives permitted it is the standard language. -/
theorem permitting_true : Language.permitting (fun _ => true) = Language.standard := by
  unfold Language.permitting Language.standard
  rw [Language.mk.injEq]
  refine ⟨rfl, rfl, rfl, ?_⟩
  funext ev walk tag raw site
  cases Directive.ofTag? tag with
  | none => rfl
  | some d => rfl

/-- A directive is known by its tag. -/
theorem Directive.ofTag?_tag (d : Directive) : ofTag? d.tag = some d := by
  cases d <;> decide

/-- There are no directives but these. -/
theorem Directive.mem_all (d : Directive) : d ∈ all := by
  cases d <;> decide

/-- A name is no directive just when it is the name of none. -/
theorem Directive.ofTag?_eq_none_iff {name : String} :
    ofTag? name = none ↔ ∀ d : Directive, name ≠ d.tag := by
  unfold ofTag?
  rw [List.find?_eq_none]
  constructor
  · exact fun h d hname => h d d.mem_all (beq_iff_eq.mpr hname.symm)
  · exact fun h d _ hname => h d (beq_iff_eq.mp hname).symm

/-! ### What waits on an element -/

/-- The attributes of a tag in the namespace of the standard language: their local names and
values in order. -/
def Xml.Tag.waiting (t : Tag) : List (String × String) :=
  (t.attributes.filter fun a => a.name.uri? == some standardUri).map fun a =>
    (a.name.localName, a.value)

/-- What was waiting under a name is gone after it was taken off, and nothing else is. -/
theorem lookup_filter_ne (waiting : List (String × String)) (tag t : String) :
    (waiting.filter fun w => w.1 != tag).lookup t
      = if t = tag then none else waiting.lookup t := by
  induction waiting with
  | nil => rw [List.filter_nil, List.lookup_nil, ite_self]
  | cons w waiting ih =>
    by_cases hw : w.1 = tag
    · rw [List.filter_cons_of_neg (by simp [hw]), ih, List.lookup_cons, hw]
      by_cases ht : t = tag
      · rw [if_pos ht, if_pos ht]
      · rw [if_neg ht, if_neg ht, beq_false_of_ne ht]
    · rw [List.filter_cons_of_pos (by simp [hw]), List.lookup_cons, List.lookup_cons, ih]
      by_cases ht : t = tag
      · rw [if_pos ht, if_pos ht, beq_false_of_ne (fun h => hw (h.symm.trans ht))]
      · rw [if_neg ht, if_neg ht]

/-- Under names that are different the order of what waits makes no difference. -/
theorem lookup_of_perm {α : Type} {ws ws' : List (String × α)} (h : ws.Perm ws')
    (hnames : (ws.map Prod.fst).Nodup) (t : String) : ws.lookup t = ws'.lookup t := by
  induction h with
  | nil => rfl
  | cons w _ ih =>
    rw [List.lookup_cons, List.lookup_cons, ih (List.nodup_cons.mp hnames).2]
  | swap w w' ws =>
    have hne : w'.1 ≠ w.1 := fun h =>
      (List.nodup_cons.mp hnames).1 (h ▸ List.mem_cons_self)
    rw [List.lookup_cons, List.lookup_cons, List.lookup_cons, List.lookup_cons]
    by_cases hw : t = w.1
    · rw [hw, beq_false_of_ne hne.symm]
    · rw [beq_false_of_ne hw]
  | trans h _ ih ih' =>
    rw [ih hnames, ih' ((h.map Prod.fst).nodup_iff.mp hnames)]

/-- An attribute of the standard language under its usual prefix. -/
def standardAttribute (localName value : String) : Attribute :=
  { name := ⟨some ⟨some "tal", standardUri⟩, localName⟩, value }

/-- Waiting directives of one namespace, which is not listed when there are none. -/
private def Pending.single (uri : String) (ds : List (String × String)) : Pending :=
  if ds.isEmpty then [] else [(uri, ds)]

/-- One more entry under the only namespace. -/
private theorem Pending.add_single (uri : String) (ds : List (String × String))
    (name raw : String) :
    (Pending.single uri ds).add uri name raw = Pending.single uri (ds ++ [(name, raw)]) := by
  cases ds with
  | nil => rfl
  | cons d ds =>
    show (if uri = uri then _ else _) = _
    rw [if_pos rfl]
    rfl

/-- One attribute more, on the way to what waits on an element. -/
private theorem Pending.collect_single {l : Language} (hl : l.uri = standardUri)
    (ds : List (String × String)) (a : Attribute) :
    (match a.name.uri? with
      | some uri =>
        if [l].any (·.uri == uri) then
          (Pending.single standardUri ds).add uri a.name.localName a.value
        else Pending.single standardUri ds
      | none => Pending.single standardUri ds)
    = Pending.single standardUri (ds
      ++ ([a].filter fun a => a.name.uri? == some standardUri).map fun a =>
        (a.name.localName, a.value)) := by
  cases huri : a.name.uri? with
  | none => simp [huri]
  | some uri =>
    by_cases h : standardUri = uri
    · subst h
      simp [hl, huri, Pending.add_single]
    · simp [hl, huri, h, Ne.symm h]

/-- What waits on an element for a language of the standard namespace. -/
theorem pendingOn_eq {l : Language} (hl : l.uri = standardUri) (t : Tag) :
    pendingOn [l] t = Pending.single standardUri t.waiting := by
  -- What has been collected so far is generalized, as every attribute adds to it.
  have hfold : ∀ (as : List Attribute) (ds : List (String × String)),
      as.foldl (fun p a => match a.name.uri? with
        | some uri => if [l].any (·.uri == uri) then p.add uri a.name.localName a.value else p
        | none => p) (Pending.single standardUri ds)
      = Pending.single standardUri (ds
        ++ (as.filter fun a => a.name.uri? == some standardUri).map fun a =>
          (a.name.localName, a.value)) := by
    intro as
    induction as with
    | nil => intro ds; rw [List.foldl_nil, List.filter_nil, List.map_nil, List.append_nil]
    | cons a as ih =>
      intro ds
      rw [List.foldl_cons, Pending.collect_single hl, ih, List.append_assoc, ← List.map_append,
        ← List.filter_append, List.singleton_append]
  exact hfold t.attributes []

/-! ### Tags that are omitted -/

/-- What `omit-tag` does once it is known whether it keeps the tag. -/
def openUnless (walk : Walk) (site : Site) (keep : Bool) : Run Reply :=
  if keep then pure (.stays site.element site.locals)
  else do
    let children ← walkNodes walk site.innerScope site.locals site.element.children
    pure (.opens { site.element with children })

/-- The tag is asked for: without an expression it is left out, otherwise the value decides. -/
theorem omitTag_eq (ev : Expr.Evaluator) (walk : Walk) (raw : String) (site : Site) :
    omitTag ev walk raw site =
      if (Text.trim raw.toList).isEmpty then openUnless walk site false
      else evaluateIn ev site.locals raw >>= fun v => openUnless walk site !v.truth := by
  unfold omitTag openUnless
  split <;> rfl

/-! ### The handling of directives -/

/-- A site after a directive has been taken off its element. -/
def Site.without (site : Site) (d : Directive) : Site :=
  { site with element := { site.element with
      tag := site.element.tag.withoutAttribute (attributeKey standardUri d.tag) } }

/-- The note that a directive of an element is about to be handled. -/
def Site.announcement (site : Site) (d : Directive) (raw : String) : Event :=
  .directive standardUri d.tag raw site.element.tag.name.written site.element.tag.line

/-- Handles the waiting directives of a list in order, the permitted ones. -/
abbrev handleDirectives (permitted : Call → Bool) (ev : Expr.Evaluator) (walk : Walk)
    (site : Site) (waiting : List (String × String)) (ds : List Directive) :
    Run (Progress × List (String × String)) :=
  handleTags (.permitting permitted) ev walk site waiting (ds.map Directive.tag)

section

variable {permitted : Call → Bool} {ev : Expr.Evaluator} {walk : Walk} {site : Site}
  {waiting : List (String × String)} {s s' : RunState}

/-- Where no directives are left the site stays as it is, and so does what waits. -/
theorem handleDirectives_nil_gives_iff {r : Progress × List (String × String)} :
    (handleDirectives permitted ev walk site waiting []).Gives s r s' ↔
      r = (.on site, waiting) ∧ s' = s :=
  gives_pure_iff

/-- A permitted directive is handled as the standard language does, any other fails. -/
theorem permitting_handle_gives_iff {d : Directive} {raw : String} {reply : Reply} :
    ((Language.permitting permitted).handle ev walk d.tag raw site).Gives s reply s' ↔
      permitted ⟨ev, d, raw, site, s.globals⟩ = true ∧
        (d.handle ev walk raw site).Gives s reply s' := by
  simp only [Language.permitting, d.ofTag?_tag, gives_bind_iff, gives_get_iff]
  constructor
  · rintro ⟨_, _, ⟨rfl, rfl⟩, h⟩
    split at h
    · rename_i hp
      exact ⟨hp, h⟩
    · exact (gives_throw_iff.mp h).elim
  · rintro ⟨hp, h⟩
    refine ⟨_, _, ⟨rfl, rfl⟩, ?_⟩
    rw [if_pos hp]
    exact h

/-- The first of some directives is passed over when it does not wait. Otherwise it is taken off
the element and handled, and the others follow if the element is still there. -/
theorem handleDirectives_cons_gives_iff {d : Directive} {ds : List Directive}
    {r : Progress × List (String × String)} :
    (handleDirectives permitted ev walk site waiting (d :: ds)).Gives s r s' ↔
      (waiting.lookup d.tag = none ∧
        (handleDirectives permitted ev walk site waiting ds).Gives s r s') ∨
      ∃ raw reply s₁, waiting.lookup d.tag = some raw ∧
        permitted ⟨ev, d, raw, site.without d, s.globals⟩ = true ∧
        (d.handle ev walk raw (site.without d)).Gives (s.noting [site.announcement d raw])
          reply s₁ ∧
        match reply with
        | .stays e locals =>
          (handleDirectives permitted ev walk ⟨e, site.scope, locals⟩
            (waiting.filter fun w => w.1 != d.tag) ds).Gives s₁ r s'
        | reply => r = (.done reply, waiting.filter fun w => w.1 != d.tag) ∧ s' = s₁ := by
  unfold handleDirectives
  rw [List.map_cons, handleTags]
  cases hraw : waiting.lookup d.tag with
  | none => simp only [true_and, reduceCtorEq, false_and, exists_false, or_false]
  | some raw =>
    simp only [reduceCtorEq, false_and, false_or, gives_bind_iff, gives_note_iff,
      Option.some.injEq]
    -- A directive that is not permitted fails, so one that gives a reply was permitted.
    constructor
    · rintro ⟨_, _, rfl, reply, s₁, h, hrest⟩
      obtain ⟨hp, h⟩ := permitting_handle_gives_iff.mp h
      refine ⟨raw, reply, s₁, rfl, hp, h, ?_⟩
      cases reply with
      | stays e locals => exact hrest
      | becomes left items => exact gives_pure_iff.mp hrest
      | opens left => exact gives_pure_iff.mp hrest
    · rintro ⟨_, reply, s₁, rfl, hp, h, hrest⟩
      refine ⟨(), _, rfl, reply, s₁, permitting_handle_gives_iff.mpr ⟨hp, h⟩, ?_⟩
      cases reply with
      | stays e locals => exact hrest
      | becomes left items => exact gives_pure_iff.mpr hrest
      | opens left => exact gives_pure_iff.mpr hrest

/-- The directives of two lists are handled one list after the other, if the element is still
there after the first. -/
theorem handleDirectives_append_gives_iff {ds ds' : List Directive}
    {r : Progress × List (String × String)} :
    (handleDirectives permitted ev walk site waiting (ds ++ ds')).Gives s r s' ↔
      ∃ progress left s₁,
        (handleDirectives permitted ev walk site waiting ds).Gives s (progress, left) s₁ ∧
        match progress with
        | .on here => (handleDirectives permitted ev walk here left ds').Gives s₁ r s'
        | .done reply => r = (.done reply, left) ∧ s' = s₁ := by
  -- By induction on the first list: what a directive leaves is where the others begin.
  induction ds generalizing site waiting s with
  | nil =>
    simp only [List.nil_append, handleDirectives_nil_gives_iff]
    constructor
    · exact fun h => ⟨.on site, waiting, s, ⟨rfl, rfl⟩, h⟩
    · rintro ⟨progress, left, s₁, ⟨hprogress, rfl⟩, h⟩
      cases hprogress
      exact h
  | cons d ds ih =>
    rw [List.cons_append, handleDirectives_cons_gives_iff]
    constructor
    · rintro (⟨hnone, h⟩ | ⟨raw, reply, s₂, hraw, hp, hhandle, h⟩)
      · obtain ⟨progress, left, s₁, h, hrest⟩ := ih.mp h
        exact ⟨progress, left, s₁, handleDirectives_cons_gives_iff.mpr (.inl ⟨hnone, h⟩), hrest⟩
      · cases reply with
        | stays e locals =>
          obtain ⟨progress, left, s₁, h, hrest⟩ := ih.mp h
          exact ⟨progress, left, s₁, handleDirectives_cons_gives_iff.mpr
            (.inr ⟨raw, _, s₂, hraw, hp, hhandle, h⟩), hrest⟩
        -- The element is gone, so the second list has nothing to do either.
        | becomes | opens =>
          exact ⟨.done _, _, s₂, handleDirectives_cons_gives_iff.mpr
            (.inr ⟨raw, _, s₂, hraw, hp, hhandle, rfl, rfl⟩), h⟩
    · rintro ⟨progress, left, s₁, h, hrest⟩
      obtain ⟨hnone, h⟩ | ⟨raw, reply, s₂, hraw, hp, hhandle, h⟩ :=
        handleDirectives_cons_gives_iff.mp h
      · exact .inl ⟨hnone, ih.mpr ⟨progress, left, s₁, h, hrest⟩⟩
      · refine .inr ⟨raw, reply, s₂, hraw, hp, hhandle, ?_⟩
        cases reply with
        | stays e locals => exact ih.mpr ⟨progress, left, s₁, h, hrest⟩
        | becomes | opens =>
          obtain ⟨hdone, rfl⟩ := h
          cases hdone
          exact hrest

/-- A state after the directives on an element were handled: those left over are noted. -/
def RunState.leaving (s : RunState) (site : Site) (left : List (String × String)) : RunState :=
  if left.isEmpty then s
  else s.noting [.unhandled (left.map (·.1)) standardUri site.element.tag.name.written
    site.element.tag.line]

/-- What is left over on an element is noted, and what the notes are does not depend on the state.
-/
theorem RunState.leaving_eq (site : Site) (left : List (String × String)) :
    ∃ unhandled, ∀ s : RunState, s.leaving site left = s.noting unhandled := by
  unfold leaving
  split
  · exact ⟨[], fun s => s.noting_nil.symm⟩
  · exact ⟨_, fun _ => rfl⟩

/-- Notes about what is left do not touch the global context. -/
theorem RunState.leaving_globals (s : RunState) (site : Site) (left : List (String × String)) :
    (s.leaving site left).globals = s.globals := by
  obtain ⟨unhandled, h⟩ := leaving_eq site left
  rw [h, noting_globals]

/-- Notes about what is left are only added. -/
theorem RunState.grows_leaving (s : RunState) (site : Site) (left : List (String × String)) :
    s.Grows (s.leaving site left) := by
  obtain ⟨unhandled, h⟩ := leaving_eq site left
  rw [h]
  exact s.grows_noting unhandled

/-- Noting what is left over is the last step on an element that is still there. -/
private theorem noting_left_gives_iff {here : Site} {left : List (String × String)}
    {pending : Pending} {progress : Progress} :
    (if !left.isEmpty then do
      Run.note (.unhandled (left.map (·.1)) standardUri here.element.tag.name.written
        here.element.tag.line)
      handleLanguages ev walk here pending []
    else handleLanguages ev walk here pending []).Gives s progress s' ↔
      progress = .on here ∧ s' = s.leaving here left := by
  unfold RunState.leaving
  cases left with
  | nil => exact gives_pure_iff
  | cons d ds =>
    show (Run.note _ >>= fun _ => pure (.on here)).Gives s progress s' ↔ _
    simp only [gives_bind_iff, gives_note_iff, gives_pure_iff]
    constructor
    · rintro ⟨_, _, rfl, rfl, rfl⟩
      exact ⟨rfl, rfl⟩
    · rintro ⟨rfl, rfl⟩
      exact ⟨(), _, rfl, rfl, rfl⟩

/-- Directives that do not wait are passed over. -/
theorem handleDirectives_of_not_waiting (h : ∀ d : Directive, waiting.lookup d.tag = none)
    (ds : List Directive) :
    handleDirectives permitted ev walk site waiting ds = pure (.on site, waiting) := by
  induction ds with
  | nil => rfl
  | cons d ds ih =>
    unfold handleDirectives at *
    rw [List.map_cons, handleTags, h d]
    exact ih

/-- A directive that does not wait, or has been taken off, waits no longer. -/
theorem lookup_filter_eq_none {d d' : Directive}
    (h : d' = d ∨ waiting.lookup d'.tag = none) :
    (waiting.filter fun w => w.1 != d.tag).lookup d'.tag = none := by
  rw [lookup_filter_ne]
  rcases h with rfl | hnone
  · rw [if_pos rfl]
  · rw [hnone, ite_self]

/-- Where handling stands after one directive. -/
def Reply.progress (site : Site) : Reply → Progress
  | .stays e locals => .on ⟨e, site.scope, locals⟩
  | reply => .done reply

/-- A directive that waits is taken off and handled, and the others follow if the element is still
there. -/
theorem handleTags_cons_of_waiting {l : Language} (hl : l.uri = standardUri) {d : Directive}
    {raw : String} (tags : List String) (h : waiting.lookup d.tag = some raw) :
    handleTags l ev walk site waiting (d.tag :: tags) = (do
      Run.note (site.announcement d raw)
      let reply ← l.handle ev walk d.tag raw (site.without d)
      match reply.progress (site.without d) with
      | .on here => handleTags l ev walk here (waiting.filter fun w => w.1 != d.tag) tags
      | .done reply => pure (.done reply, waiting.filter fun w => w.1 != d.tag)) := by
  rw [handleTags, h, hl]
  refine bind_congr fun _ => bind_congr fun reply => ?_
  cases reply <;> rfl

/-- The directives of a list are handled before the others. -/
theorem handleTags_append {l : Language} (hl : l.uri = standardUri) (ds : List Directive)
    (tags : List String) :
    handleTags l ev walk site waiting (ds.map Directive.tag ++ tags) = (do
      let (progress, left) ← handleTags l ev walk site waiting (ds.map Directive.tag)
      match progress with
      | .on here => handleTags l ev walk here left tags
      | .done reply => pure (.done reply, left)) := by
  induction ds generalizing site waiting with
  | nil => rfl
  | cons d ds ih =>
    rw [List.map_cons, List.cons_append]
    -- The first tag waits or not, and if it is handled the element stays or not.
    cases hlookup : waiting.lookup d.tag with
    | none =>
      rw [handleTags, handleTags, hlookup]
      exact ih
    | some raw =>
      rw [handleTags_cons_of_waiting hl _ hlookup, handleTags_cons_of_waiting hl _ hlookup,
        bind_assoc]
      refine bind_congr fun _ => ?_
      rw [bind_assoc]
      refine bind_congr fun reply => ?_
      cases reply.progress (site.without d) with
      | on here => exact ih
      | done reply => rfl

/-- A language of the standard namespace, as the only one, handles what waits on the element. -/
theorem handleLanguages_single {l : Language} (hl : l.uri = standardUri) :
    handleLanguages ev walk site (pendingOn [l] site.element.tag) [l] = (do
      let (progress, left) ← handleTags l ev walk site site.element.tag.waiting l.tags
      match progress with
      | .done reply => pure (.done reply)
      | .on here =>
        if !left.isEmpty then
          Run.note (.unhandled (left.map (·.1)) standardUri here.element.tag.name.written
            here.element.tag.line)
        pure (.on here)) := by
  have hnothing : ∀ tags, handleTags l ev walk site [] tags = pure (.on site, []) := by
    intro tags
    induction tags with
    | nil => rfl
    | cons tag tags ih => exact ih
  rw [pendingOn_eq hl, handleLanguages, hl]
  unfold Pending.single
  cases hwaiting : site.element.tag.waiting with
  | nil =>
    -- A language for which nothing waits is not asked at all, which makes no difference.
    rw [hnothing]
    rfl
  | cons w ws =>
    simp only [List.isEmpty_cons, Bool.false_eq_true, if_false, List.lookup_cons,
      beq_self_eq_true]
    rfl

/-- If one directive waits alone, it is all that is handled. -/
theorem handleDirectives_single_gives_iff {d : Directive} {raw : String} {ds : List Directive}
    (hsingle : ∀ d' : Directive, waiting.lookup d'.tag = if d' = d then some raw else none)
    (hd : d ∈ ds) {r : Progress × List (String × String)} :
    (handleDirectives permitted ev walk site waiting ds).Gives s r s' ↔
      permitted ⟨ev, d, raw, site.without d, s.globals⟩ = true ∧ ∃ reply,
        (d.handle ev walk raw (site.without d)).Gives (s.noting [site.announcement d raw])
          reply s' ∧
        r = (reply.progress site, waiting.filter fun w => w.1 != d.tag) := by
  induction ds with
  | nil => cases hd
  | cons d' ds ih =>
    rw [handleDirectives_cons_gives_iff, hsingle d']
    by_cases hd' : d' = d
    · subst hd'
      -- Taken off the element, it leaves nothing that waits for the directives behind it.
      have hrest : ∀ (e : Element) (locals : Entries),
          handleDirectives permitted ev walk ⟨e, site.scope, locals⟩
            (waiting.filter fun w => w.1 != d'.tag) ds
          = pure (.on ⟨e, site.scope, locals⟩, waiting.filter fun w => w.1 != d'.tag) := by
        intro e locals
        refine handleDirectives_of_not_waiting (fun d => lookup_filter_eq_none ?_) ds
        by_cases h : d = d'
        · exact .inl h
        · exact .inr (by rw [hsingle, if_neg h])
      simp only [if_true, reduceCtorEq, false_and, false_or, Option.some.injEq, hrest]
      constructor
      · rintro ⟨_, reply, s₁, rfl, hp, hhandle, hr⟩
        cases reply with
        | stays e locals =>
          obtain ⟨rfl, rfl⟩ := gives_pure_iff.mp hr
          exact ⟨hp, _, hhandle, rfl⟩
        | becomes left items =>
          obtain ⟨rfl, rfl⟩ := hr
          exact ⟨hp, _, hhandle, rfl⟩
        | opens left =>
          obtain ⟨rfl, rfl⟩ := hr
          exact ⟨hp, _, hhandle, rfl⟩
      · rintro ⟨hp, reply, hhandle, rfl⟩
        refine ⟨raw, reply, s', rfl, hp, hhandle, ?_⟩
        cases reply with
        | stays e locals => exact gives_pure_iff.mpr ⟨rfl, rfl⟩
        | becomes left items => exact ⟨rfl, rfl⟩
        | opens left => exact ⟨rfl, rfl⟩
    · have hmem : d ∈ ds := by
        rcases List.mem_cons.mp hd with h | h
        · exact absurd h.symm hd'
        · exact h
      simp only [if_neg hd', true_and, reduceCtorEq, false_and, exists_false, or_false, ih hmem]

/-- The languages of an element are one: the directives that wait for it are handled, and those
left over are noted if the element is still there. -/
theorem handleLanguages_gives_iff {progress : Progress} :
    (handleLanguages ev walk site (pendingOn [.permitting permitted] site.element.tag)
      [.permitting permitted]).Gives s progress s' ↔
      ∃ left s₁, (handleDirectives permitted ev walk site site.element.tag.waiting
          Directive.all).Gives s (progress, left) s₁ ∧
        s' = match progress with
          | .done _ => s₁
          | .on here => s₁.leaving here left := by
  have huri : (Language.permitting permitted).uri = standardUri := rfl
  rw [pendingOn_eq huri, handleLanguages, huri]
  unfold Pending.single
  cases hw : site.element.tag.waiting with
  | nil =>
    -- A language for which nothing waits is not asked at all, which makes no difference.
    rw [handleDirectives_of_not_waiting (fun _ => rfl)]
    simp only [List.isEmpty_nil, if_true, List.lookup_nil, handleLanguages, gives_pure_iff,
      Prod.mk.injEq]
    constructor
    · rintro ⟨rfl, rfl⟩
      exact ⟨[], _, ⟨⟨rfl, rfl⟩, rfl⟩, rfl⟩
    · rintro ⟨_, _, ⟨⟨rfl, rfl⟩, rfl⟩, rfl⟩
      exact ⟨rfl, rfl⟩
  | cons w ws =>
    simp only [List.isEmpty_cons, Bool.false_eq_true, if_false, List.lookup_cons,
      beq_self_eq_true, gives_bind_iff]
    constructor
    · rintro ⟨⟨reached, left⟩, s₁, h, hrest⟩
      cases reached with
      | done reply =>
        obtain ⟨rfl, rfl⟩ := gives_pure_iff.mp hrest
        exact ⟨left, s', h, rfl⟩
      | on here =>
        obtain ⟨rfl, hs'⟩ := noting_left_gives_iff.mp hrest
        exact ⟨left, s₁, h, hs'⟩
    · rintro ⟨left, s₁, h, hs'⟩
      refine ⟨(progress, left), s₁, h, ?_⟩
      cases progress with
      | done reply => exact gives_pure_iff.mpr ⟨rfl, hs'⟩
      | on here => exact noting_left_gives_iff.mpr ⟨rfl, hs'⟩

/-- Processing an element: its directives are handled, and if it is still there then, so are its
children. -/
theorem permittedWalk_succ_gives_iff {fuel : Nat} {reply : Reply} :
    (permittedWalk permitted ev (fuel + 1) site).Gives s reply s' ↔
      ∃ progress left s₁,
        (handleDirectives permitted ev (permittedWalk permitted ev fuel) site
          site.element.tag.waiting Directive.all).Gives s (progress, left) s₁ ∧
        match progress with
        | .done r => reply = r ∧ s' = s₁
        | .on here => ∃ children,
          (walkNodes (permittedWalk permitted ev fuel) here.innerScope here.locals
            here.element.children).Gives (s₁.leaving here left) children s' ∧
          reply = .stays { here.element with children } here.locals := by
  show (processWith _ ev _ site).Gives s reply s' ↔ _
  unfold processWith
  simp only [gives_bind_iff, handleLanguages_gives_iff]
  -- The first direction takes the run apart, the second puts it together of the same parts.
  constructor
  · rintro ⟨progress, _, ⟨left, s₁, h, rfl⟩, hrest⟩
    refine ⟨progress, left, s₁, h, ?_⟩
    cases progress with
    | done r => exact gives_pure_iff.mp hrest
    | on here =>
      obtain ⟨children, s₂, hchildren, hreply⟩ := gives_bind_iff.mp hrest
      obtain ⟨rfl, rfl⟩ := gives_pure_iff.mp hreply
      exact ⟨children, hchildren, rfl⟩
  · rintro ⟨progress, left, s₁, h, hrest⟩
    refine ⟨progress, _, ⟨left, s₁, h, rfl⟩, ?_⟩
    cases progress with
    | done r => exact gives_pure_iff.mpr hrest
    | on here =>
      obtain ⟨children, hchildren, rfl⟩ := hrest
      exact gives_bind_iff.mpr ⟨children, s', hchildren, gives_pure_iff.mpr ⟨rfl, rfl⟩⟩

/-! ### The nodes of a list -/

variable {scope : Scope} {locals : Entries} {out : List Node}

/-- An element is processed and put into its place before the nodes behind it. -/
theorem walkNodes_element_gives_iff {tag : Tag} {children ns : List Node} :
    (walkNodes walk scope locals (.element tag children :: ns)).Gives s out s' ↔
      ∃ reply s₁ here s₂ rest, (walk ⟨⟨tag, children⟩, scope, locals⟩).Gives s reply s₁ ∧
        (reply.place scope).Gives s₁ here s₂ ∧
        (walkNodes walk scope locals ns).Gives s₂ rest s' ∧ out = here ++ rest := by
  simp only [walkNodes, gives_bind_iff, gives_pure_iff]
  constructor
  · rintro ⟨reply, s₁, hreply, here, s₂, hhere, rest, _, hrest, rfl, rfl⟩
    exact ⟨reply, s₁, here, s₂, rest, hreply, hhere, hrest, rfl⟩
  · rintro ⟨reply, s₁, here, s₂, rest, hreply, hhere, hrest, rfl⟩
    exact ⟨reply, s₁, hreply, here, s₂, hhere, rest, s', hrest, rfl, rfl⟩

/-- A node that is no element stays. -/
theorem walkNodes_other_gives_iff {n : Node} {ns : List Node} (hn : n.element? = none) :
    (walkNodes walk scope locals (n :: ns)).Gives s out s' ↔
      ∃ rest, (walkNodes walk scope locals ns).Gives s rest s' ∧ out = n :: rest := by
  have hwalk : walkNodes walk scope locals (n :: ns)
      = walkNodes walk scope locals ns >>= fun rest => pure (n :: rest) := by
    cases n with
    | element => cases hn
    | comment | instruction | reference | text => rfl
  simp only [hwalk, gives_bind_iff, gives_pure_iff]
  constructor
  · rintro ⟨rest, _, hrest, rfl, rfl⟩
    exact ⟨rest, hrest, rfl⟩
  · rintro ⟨rest, hrest, rfl⟩
    exact ⟨rest, s', hrest, rfl, rfl⟩

/-- No nodes are walked to nothing. -/
theorem walkNodes_nil_gives_iff :
    (walkNodes walk scope locals []).Gives s out s' ↔ out = [] ∧ s' = s :=
  gives_pure_iff

/-- The nodes of two lists are processed one list after the other. -/
theorem walkNodes_append_gives_iff {ms ns : List Node} :
    (walkNodes walk scope locals (ms ++ ns)).Gives s out s' ↔
      ∃ out₁ s₁ out₂, (walkNodes walk scope locals ms).Gives s out₁ s₁ ∧
        (walkNodes walk scope locals ns).Gives s₁ out₂ s' ∧ out = out₁ ++ out₂ := by
  induction ms generalizing s out with
  | nil =>
    simp only [List.nil_append, walkNodes_nil_gives_iff]
    constructor
    · exact fun h => ⟨[], s, out, ⟨rfl, rfl⟩, h, rfl⟩
    · rintro ⟨_, _, _, ⟨rfl, rfl⟩, h, rfl⟩
      exact h
  | cons m ms ih =>
    rw [List.cons_append]
    cases hm : m.element? with
    | some e =>
      -- Only an element is processed; the other kinds of nodes share one lemma.
      obtain ⟨tag, children, rfl⟩ : ∃ tag children, m = .element tag children := by
        cases m with
        | element tag children => exact ⟨tag, children, rfl⟩
        | comment | instruction | reference | text => cases hm
      simp only [walkNodes_element_gives_iff, ih]
      constructor
      · rintro ⟨reply, s₁, here, s₂, _, hreply, hhere, ⟨out₁, s₃, out₂, hms, hns, rfl⟩, rfl⟩
        exact ⟨here ++ out₁, s₃, out₂, ⟨reply, s₁, here, s₂, out₁, hreply, hhere, hms, rfl⟩, hns,
          (List.append_assoc _ _ _).symm⟩
      · rintro ⟨_, s₃, out₂, ⟨reply, s₁, here, s₂, out₁, hreply, hhere, hms, rfl⟩, hns, rfl⟩
        exact ⟨reply, s₁, here, s₂, out₁ ++ out₂, hreply, hhere, ⟨out₁, s₃, out₂, hms, hns, rfl⟩,
          List.append_assoc _ _ _⟩
    | none =>
      simp only [walkNodes_other_gives_iff hm, ih]
      constructor
      · rintro ⟨_, ⟨out₁, s₁, out₂, hms, hns, rfl⟩, rfl⟩
        exact ⟨m :: out₁, s₁, out₂, ⟨out₁, hms, rfl⟩, hns, rfl⟩
      · rintro ⟨_, s₁, out₂, ⟨out₁, hms, rfl⟩, hns, rfl⟩
        exact ⟨out₁ ++ out₂, ⟨out₁, s₁, out₂, hms, hns, rfl⟩, rfl⟩

end

end AttrTemplates
