import Mathlib.Data.List.Induction
import Mathlib.Data.List.Nodup
import AttrTemplates.Proofs.Template.Handling
import AttrTemplates.Template.Edits

/-!
# `AttrTemplates.Proofs.Template.Dispatch`: the order in which handlers are called

Which handlers are called on an element is settled when processing comes to it: the languages one
after the other, each with its directives in their order, as far as the element carries them. A
handler may do what it likes to the element, to the tree below it and to the contexts; all it can
change about the calls behind it is whether they are made.

A handler is an arbitrary function, so its calls cannot be read off what a run leads to. They are
recorded instead. `Acts` are the ways in which the walker acts on an element, and
`Acts.onElement` is the walker over any of them. With `Acts.plain` it is `processWith`; with
`Acts.recording` it also writes down every call of a handler, with the answer, and the step to the
children.

* `Language.callsOn` are the calls that a language has to make on an element, `callsOn` those of
  several languages;
* `Obeys` says that calls are made in an order until one of them does not leave the element in
  place;
* `handlers_called_in_order` is the law, for all languages with namespaces of their own.
-/

set_option autoImplicit false

namespace AttrTemplates

open Xml Run

/-! ### The calls an element asks for -/

/-- A call of a handler: the language, its directive and the raw value that is handed over. -/
structure HandlerCall where
  language : Language
  directive : String
  raw : String

/-- What tells a directive from all others: its namespace and its name. -/
def HandlerCall.key (call : HandlerCall) : String × String :=
  (call.language.uri, call.directive)

/-- Makes the call on an element. -/
def HandlerCall.make (call : HandlerCall) (ev : Expr.Evaluator) (walk : Walk) (site : Site) :
    Run Reply :=
  call.language.handle ev walk call.directive call.raw site

/-- The attributes of a tag in a namespace: their local names and values in order. -/
def Xml.Tag.directivesIn (t : Tag) (uri : String) : List (String × String) :=
  (t.attributes.filter fun a => a.name.uri? == some uri).map fun a => (a.name.localName, a.value)

/-- The calls a language has to make for waiting directives, in the order of its tags. -/
def Language.callsFor (l : Language) (waiting : List (String × String)) (tags : List String) :
    List HandlerCall :=
  tags.eraseDups.filterMap fun tag => (waiting.lookup tag).map (⟨l, tag, ·⟩)

/-- The calls a language has to make on an element, each with the value the attribute has. -/
def Language.callsOn (l : Language) (t : Tag) : List HandlerCall :=
  l.callsFor (t.directivesIn l.uri) l.tags

/-- The calls that languages have to make on an element, in the order of the languages. -/
def callsOn (languages : List Language) (t : Tag) : List HandlerCall :=
  languages.flatMap (·.callsOn t)

/-! ### Each directive once -/

/-- Whether repetitions or unwanted members go first makes no difference. -/
private theorem eraseDups_filter (p : String → Bool) :
    (tags : List String) → (tags.filter p).eraseDups = tags.eraseDups.filter p
  | [] => rfl
  | tag :: tags => by
    have hrest := eraseDups_filter p (tags.filter fun t => !t == tag)
    by_cases hp : p tag = true
    · have hcomm : (tags.filter p).filter (fun t => !t == tag)
          = (tags.filter fun t => !t == tag).filter p := by
        simp only [List.filter_filter, Bool.and_comm]
      rw [List.filter_cons_of_pos hp, List.eraseDups_cons, List.eraseDups_cons,
        List.filter_cons_of_pos hp, ← hrest, hcomm]
    · -- The members that are left are other than the one that goes.
      have hother : (tags.filter fun t => !t == tag).filter p = tags.filter p := by
        rw [List.filter_filter]
        refine List.filter_congr fun t _ => ?_
        by_cases ht : t = tag
        · rw [ht, Bool.eq_false_iff.mpr hp, Bool.false_and]
        · rw [beq_false_of_ne ht, Bool.not_false, Bool.and_true]
      rw [List.filter_cons_of_neg hp, List.eraseDups_cons, List.filter_cons_of_neg hp, ← hrest,
        hother]
termination_by tags => tags.length
decreasing_by exact Nat.lt_succ_of_le (List.length_filter_le _ _)

/-- Leaving out duplicates leaves none. -/
private theorem nodup_eraseDups : (tags : List String) → tags.eraseDups.Nodup
  | [] => List.nodup_nil
  | tag :: tags => by
    rw [List.eraseDups_cons, List.nodup_cons, List.mem_eraseDups, List.mem_filter]
    refine ⟨fun h => ?_, nodup_eraseDups _⟩
    rw [beq_self_eq_true] at h
    exact Bool.false_ne_true h.2
termination_by tags => tags.length
decreasing_by exact Nat.lt_succ_of_le (List.length_filter_le _ _)

/-- A tag that does not wait asks for no call. One that waits asks for a call, and for no other
once it has been taken off. -/
theorem Language.callsFor_cons (l : Language) (waiting : List (String × String)) (tag : String)
    (tags : List String) :
    l.callsFor waiting (tag :: tags) = match waiting.lookup tag with
      | none => l.callsFor waiting tags
      | some raw => ⟨l, tag, raw⟩ :: l.callsFor (waiting.filter fun w => w.1 != tag) tags := by
  -- Without duplicates the tags behind the first are those that differ from it. A filter in front
  -- of `filterMap` goes into what is asked of each tag.
  have hrest : ∀ ask : String → Option HandlerCall,
      (tags.filter fun t => !t == tag).eraseDups.filterMap ask
        = tags.eraseDups.filterMap fun t => if t = tag then none else ask t := by
    intro ask
    rw [eraseDups_filter, List.filterMap_filter]
    congr 1
    funext t
    by_cases ht : t = tag
    · rw [ht, beq_self_eq_true, if_pos rfl]
      rfl
    · rw [beq_false_of_ne ht, if_neg ht]
      rfl
  unfold callsFor
  rw [List.eraseDups_cons, List.filterMap_cons, hrest]
  cases hraw : waiting.lookup tag with
  | none =>
    dsimp only [Option.map_none]
    congr 1
    funext t
    by_cases ht : t = tag
    · rw [if_pos ht, ht, hraw, Option.map_none]
    · rw [if_neg ht]
  | some raw =>
    dsimp only [Option.map_some]
    congr 2
    funext t
    rw [lookup_filter_ne]
    split <;> rfl

/-- Where nothing waits, nothing is called. -/
theorem Language.callsFor_nothing (l : Language) (tags : List String) : l.callsFor [] tags = [] :=
  List.filterMap_eq_nil_iff.mpr fun _ _ => rfl

/-- A call asked for hands over a value that waits under its name. -/
theorem Language.mem_callsFor {l : Language} {waiting : List (String × String)}
    {tags : List String} {call : HandlerCall} (h : call ∈ l.callsFor waiting tags) :
    call.language = l ∧ waiting.lookup call.directive = some call.raw := by
  obtain ⟨tag, -, hask⟩ := List.mem_filterMap.mp h
  obtain ⟨raw, hraw, rfl⟩ := Option.map_eq_some_iff.mp hask
  exact ⟨rfl, hraw⟩

/-- No call is asked for twice. -/
theorem Language.nodup_callsFor (l : Language) (waiting : List (String × String))
    (tags : List String) : ((l.callsFor waiting tags).map HandlerCall.key).Nodup := by
  unfold callsFor
  rw [List.map_filterMap]
  refine (nodup_eraseDups tags).filterMap fun tag tag' key hkey hkey' => ?_
  -- The key of a call holds the tag that asked for it.
  have hof : ∀ t, (Option.map HandlerCall.key ((waiting.lookup t).map (⟨l, t, ·⟩))) = some key →
      t = key.2 := by
    intro t ht
    obtain ⟨call, hcall, rfl⟩ := Option.map_eq_some_iff.mp ht
    obtain ⟨raw, -, rfl⟩ := Option.map_eq_some_iff.mp hcall
    rfl
  exact (hof tag hkey).trans (hof tag' hkey').symm

/-- A call asked for on an element hands over the value that its attribute has there. -/
theorem mem_callsOn {languages : List Language} {t : Tag} {call : HandlerCall}
    (h : call ∈ callsOn languages t) :
    call.language ∈ languages ∧
      (t.directivesIn call.language.uri).lookup call.directive = some call.raw := by
  obtain ⟨l, hl, hcall⟩ := List.mem_flatMap.mp h
  obtain ⟨rfl, hraw⟩ := Language.mem_callsFor hcall
  exact ⟨hl, hraw⟩

/-- Languages with namespaces of their own ask for no directive twice. -/
theorem nodup_callsOn {languages : List Language} (hdistinct : (languages.map Language.uri).Nodup)
    (t : Tag) : ((callsOn languages t).map HandlerCall.key).Nodup := by
  unfold callsOn
  rw [List.map_flatMap, List.nodup_flatMap]
  refine ⟨fun l _ => l.nodup_callsFor _ _, (List.pairwise_map.mp hdistinct).imp ?_⟩
  intro l l' hne key hkey hkey'
  obtain ⟨call, hcall, rfl⟩ := List.mem_map.mp hkey
  obtain ⟨call', hcall', hsame⟩ := List.mem_map.mp hkey'
  obtain ⟨rfl, -⟩ := Language.mem_callsFor hcall
  obtain ⟨rfl, -⟩ := Language.mem_callsFor hcall'
  exact hne (congrArg Prod.fst hsame).symm

/-! ### What waits for each language -/

/-- What waits under a namespace after one more entry. -/
theorem Pending.lookup_add (p : Pending) (uri name raw u : String) :
    ((p.add uri name raw).lookup u).getD []
      = (p.lookup u).getD [] ++ if u = uri then [(name, raw)] else [] := by
  induction p with
  | nil =>
    unfold add
    by_cases hu : u = uri
    · rw [hu, List.lookup_cons_self, if_pos rfl]
      rfl
    · rw [List.lookup_cons, beq_false_of_ne hu, if_neg hu]
      rfl
  | cons d rest ih =>
    obtain ⟨v, ds⟩ := d
    unfold add
    by_cases hv : v = uri
    · -- The namespace is the first on the list: the directive goes behind the ones that wait there.
      rw [if_pos hv, List.lookup_cons, List.lookup_cons]
      by_cases hu : u = v
      · rw [hu, beq_self_eq_true, if_pos hv]
        rfl
      · rw [beq_false_of_ne hu, if_neg fun h => hu (h.trans hv.symm), List.append_nil]
    · -- Another namespace is the first on the list, so the directive goes to one behind it.
      rw [if_neg hv, List.lookup_cons, List.lookup_cons]
      by_cases hu : u = v
      · rw [hu, beq_self_eq_true, if_neg hv, List.append_nil]
      · rw [beq_false_of_ne hu]
        exact ih

/-- What is left in one namespace says nothing about the others. -/
theorem Pending.lookup_update_of_ne (p : Pending) {uri u : String} (hu : u ≠ uri)
    (ds : List (String × String)) : (p.update uri ds).lookup u = p.lookup u := by
  induction p with
  | nil => rfl
  | cons d rest ih =>
    obtain ⟨v, old⟩ := d
    unfold update at ih ⊢
    rw [List.map_cons]
    dsimp only
    by_cases hv : v = uri
    · rw [if_pos hv, List.lookup_cons, List.lookup_cons, ih,
        beq_false_of_ne fun h => hu (h.trans hv)]
    · rw [if_neg hv, List.lookup_cons, List.lookup_cons, ih]

/-- What waits on an element for a language are the attributes in its namespace. -/
theorem lookup_pendingOn {languages : List Language} {l : Language} (hl : l ∈ languages)
    (t : Tag) : ((pendingOn languages t).lookup l.uri).getD [] = t.directivesIn l.uri := by
  have hgoverned : languages.any (·.uri == l.uri) = true :=
    List.any_eq_true.mpr ⟨l, hl, beq_self_eq_true _⟩
  obtain ⟨name, as, declarations, line⟩ := t
  unfold pendingOn Tag.directivesIn
  -- The attributes are collected from the first to the last, so the last is taken apart.
  induction as using List.reverseRecOn with
  | nil => rfl
  | append_singleton as a ih =>
    dsimp only at ih ⊢
    rw [List.foldl_concat, List.filter_append, List.map_append, ← ih]
    cases huri : a.name.uri? with
    | none => rw [List.filter_cons_of_neg (by simp [huri]), List.filter_nil, List.map_nil,
        List.append_nil]
    | some uri =>
      dsimp only
      by_cases h : uri = l.uri
      · subst h
        rw [if_pos hgoverned, Pending.lookup_add, if_pos rfl,
          List.filter_cons_of_pos (by simp [huri]), List.filter_nil, List.map_singleton]
      · rw [List.filter_cons_of_neg (by simp [huri, h]), List.filter_nil, List.map_nil,
          List.append_nil]
        split
        · rw [Pending.lookup_add, if_neg (Ne.symm h), List.append_nil]
        · rfl

/-! ### Calls that obey an order -/

/-- A call that was made, with the answer. -/
structure AnsweredCall where
  call : HandlerCall
  answer : Except Failure Reply

/-- Whether a call left the element in place. -/
def AnsweredCall.leavesInPlace (c : AnsweredCall) : Bool :=
  match c.answer with
  | .ok (.stays ..) => true
  | _ => false

/-- An answer that leaves an element in place is one that it stays. -/
theorem AnsweredCall.leavesInPlace_iff {c : AnsweredCall} :
    c.leavesInPlace = true ↔ ∃ e locals, c.answer = .ok (.stays e locals) := by
  obtain ⟨call, answer⟩ := c
  unfold leavesInPlace
  constructor
  · intro h
    split at h
    · exact ⟨_, _, ‹_›⟩
    · cases h
  · rintro ⟨e, locals, rfl⟩
    rfl

/-- Calls that were made obey an order: they are the first of those asked for, and the last of
them is the first that did not leave the element in place, if there is one. -/
inductive Obeys : List HandlerCall → List AnsweredCall → Prop
  | complete : Obeys [] []
  | next {c : AnsweredCall} {asked : List HandlerCall} {made : List AnsweredCall} :
    c.leavesInPlace = true → Obeys asked made → Obeys (c.call :: asked) (c :: made)
  | last {c : AnsweredCall} {asked : List HandlerCall} :
    c.leavesInPlace = false → Obeys (c.call :: asked) [c]

namespace Obeys

variable {asked asked' : List HandlerCall} {made made' : List AnsweredCall}

/-- The calls that were made are the first of those that were asked for. -/
theorem made_isPrefix_asked (h : Obeys asked made) : made.map AnsweredCall.call <+: asked := by
  induction h with
  | complete => exact List.prefix_refl _
  | next _ _ ih => exact List.cons_prefix_cons.mpr ⟨rfl, ih⟩
  | last _ => exact List.cons_prefix_cons.mpr ⟨rfl, List.nil_prefix⟩

/-- A call that does not leave the element in place is the last. -/
theorem all_but_last (h : Obeys asked made) : ∀ c ∈ made.dropLast, c.leavesInPlace = true := by
  induction h with
  | complete => exact fun c hc => nomatch hc
  | @next c asked made hc _ ih =>
    cases made with
    | nil => exact fun c hc => nomatch hc
    | cons d made =>
      rw [List.dropLast_cons_cons]
      exact List.forall_mem_cons.mpr ⟨hc, ih⟩
  | last _ => exact fun c hc => nomatch hc

/-- When all leave the element in place, nothing that is asked for is missing. -/
theorem eq_asked (h : Obeys asked made) (hall : ∀ c ∈ made, c.leavesInPlace = true) :
    made.map AnsweredCall.call = asked := by
  induction h with
  | complete => rfl
  | next _ _ ih => rw [List.map_cons, ih (List.forall_mem_cons.mp hall).2]
  | last hc =>
    rw [hall _ (List.mem_singleton_self _)] at hc
    cases hc

/-- If all of the first calls leave the element in place, the calls after them are made as asked. -/
theorem append (h : Obeys asked made) (hall : ∀ c ∈ made, c.leavesInPlace = true)
    (h' : Obeys asked' made') : Obeys (asked ++ asked') (made ++ made') := by
  induction h with
  | complete => exact h'
  | next hc _ ih => exact .next hc (ih (List.forall_mem_cons.mp hall).2)
  | last hc =>
    rw [hall _ (List.mem_singleton_self _)] at hc
    cases hc

/-- What is asked for later does not matter once the element is gone. -/
theorem append_asked (h : Obeys asked made) (hall : ¬ ∀ c ∈ made, c.leavesInPlace = true) :
    Obeys (asked ++ asked') made := by
  induction h with
  | complete => exact (hall fun c hc => nomatch hc).elim
  | next hc _ ih => exact .next hc (ih fun h => hall (List.forall_mem_cons.mpr ⟨hc, h⟩))
  | last hc => exact .last hc

end Obeys

/-! ### The walker over its acts -/

/-- Processes the children of an element that is still in place. -/
def processBelow (walk : Walk) (site : Site) : Run Reply := do
  let e := site.element
  let children ← walkNodes walk site.innerScope site.locals e.children
  pure (.stays { e with children } site.locals)

/-- The ways in which the walker acts on an element. -/
structure Acts (m : Type → Type) where
  note : Event → m Unit
  call : HandlerCall → Site → m Reply
  below : Site → m Reply

namespace Acts

section

variable {m : Type → Type} [Monad m] (acts : Acts m)

/-- `handleTags` over some acts. -/
def onTags (l : Language) (site : Site) (waiting : List (String × String)) :
    List String → m (Progress × List (String × String))
  | [] => pure (.on site, waiting)
  | tag :: tags =>
    match waiting.lookup tag with
    | none => onTags l site waiting tags
    | some raw => do
      let waiting := waiting.filter fun d => d.1 != tag
      let e := site.element
      let e := { e with tag := e.tag.withoutAttribute (attributeKey l.uri tag) }
      acts.note (.directive l.uri tag raw e.tag.name.written e.tag.line)
      match ← acts.call ⟨l, tag, raw⟩ { site with element := e } with
      | .stays e locals => onTags l { site with element := e, locals } waiting tags
      | reply => pure (.done reply, waiting)

/-- `handleLanguages` over some acts. -/
def onLanguages (site : Site) (pending : Pending) : List Language → m Progress
  | [] => pure (.on site)
  | l :: ls =>
    match pending.lookup l.uri with
    | none => onLanguages site pending ls
    | some waiting => do
      let (progress, left) ← acts.onTags l site waiting l.tags
      match progress with
      | .done reply => pure (.done reply)
      | .on site =>
        if !left.isEmpty then
          let t := site.element.tag
          acts.note (.unhandled (left.map (·.1)) l.uri t.name.written t.line)
        onLanguages site (pending.update l.uri left) ls

/-- `processWith` over some acts. -/
def onElement (languages : List Language) (site : Site) : m Reply := do
  match ← acts.onLanguages site (pendingOn languages site.element.tag) languages with
  | .done reply => pure reply
  | .on site => acts.below site

end

variable {ev : Expr.Evaluator} {walk : Walk}

/-- The acts of the walker itself. -/
def plain (ev : Expr.Evaluator) (walk : Walk) : Acts Run where
  note := Run.note
  call call site := call.make ev walk site
  below := processBelow walk

/-- With plain acts the tags are handled as the walk handles them. -/
theorem onTags_plain (l : Language) (site : Site) (waiting : List (String × String))
    (tags : List String) :
    (plain ev walk).onTags l site waiting tags = handleTags l ev walk site waiting tags := by
  induction tags generalizing site waiting with
  | nil => rfl
  | cons tag tags ih =>
    unfold onTags handleTags
    cases waiting.lookup tag with
    | none => exact ih site waiting
    | some raw =>
      refine bind_congr fun _ => bind_congr fun reply => ?_
      cases reply with
      | stays e locals => exact ih _ _
      | becomes | opens => rfl

/-- With plain acts the languages are handled as the walk handles them. -/
theorem onLanguages_plain (site : Site) (pending : Pending) (ls : List Language) :
    (plain ev walk).onLanguages site pending ls = handleLanguages ev walk site pending ls := by
  induction ls generalizing site pending with
  | nil => rfl
  | cons l ls ih =>
    unfold onLanguages handleLanguages
    -- A namespace under which nothing is pending is passed over by both.
    cases pending.lookup l.uri with
    | none => exact ih site pending
    | some waiting =>
      dsimp only
      rw [onTags_plain]
      refine bind_congr fun r => ?_
      obtain ⟨progress, left⟩ := r
      cases progress with
      | done reply => rfl
      | on site =>
        dsimp only
        split
        · exact bind_congr fun _ => ih _ _
        · exact ih _ _

/-- Over the acts of the walker itself, the walker is what processes elements. -/
theorem onElement_plain (languages : List Language) (site : Site) :
    (plain ev walk).onElement languages site = processWith languages ev walk site := by
  unfold onElement processWith
  rw [onLanguages_plain]
  refine bind_congr fun progress => ?_
  cases progress <;> rfl

end Acts

/-! ### The record -/

/-- What the walker does on an element, as far as it is recorded. -/
inductive Step where
  | called (call : AnsweredCall)
  /-- The children are processed. -/
  | walked

/-- A step of processing with a record of what the walker did. -/
abbrev Recording := ExceptT Failure (StateM (RunState × List Step))

namespace Recording

variable {α β : Type}

/-- A step of processing, with an entry in the record. -/
def of (r : Run α) (entry : Except Failure α → List Step) : Recording α := fun (s, record) =>
  let (a, s') := r.run.run s
  (a, s', record ++ entry a)

/-- A recording in a sequence fails in its first part or goes on with the second. -/
theorem run_bind (r : Recording α) (f : α → Recording β) (s : RunState × List Step) :
    (r >>= f).run.run s = match r.run.run s with
      | (.ok a, s') => (f a).run.run s'
      | (.error e, s') => (.error e, s') := by
  change (ExceptT.bind r f).run.run s = _
  show (ExceptT.bindCont f (r.run.run s).1) (r.run.run s).2 = _
  rcases r.run.run s with ⟨a | a, s'⟩ <;> rfl

end Recording

/-- The acts of the walker, with a record of the calls and of the step to the children. -/
def Acts.recording (ev : Expr.Evaluator) (walk : Walk) : Acts Recording where
  note e := .of (Run.note e) fun _ => []
  call call site := .of (call.make ev walk site) fun answer => [.called ⟨call, answer⟩]
  below site := .of (processBelow walk site) fun _ => [.walked]

/-- How a part of the walker that starts in a state is recorded: the record changes nothing, the
calls in it obey an order, and they all leave the element in place just when the part ends with
the element there. -/
structure Recorded {α : Type} (recording : Recording α) (plain : Run α) (s : RunState)
    (asked : List HandlerCall) (onElement : α → Prop) (made : List AnsweredCall) : Prop where
  run : ∀ record, recording.run.run (s, record)
    = ((plain.run.run s).1, (plain.run.run s).2, record ++ made.map .called)
  obeys : Obeys asked made
  inPlace : (∀ c ∈ made, c.leavesInPlace = true) ↔ ∃ a s', plain.Gives s a s' ∧ onElement a

namespace Recorded

variable {α β : Type} {recording : Recording α} {plain : Run α} {s : RunState}
  {asked asked' : List HandlerCall} {onElement : α → Prop} {made : List AnsweredCall}

/-- Nothing is recorded where a result is given at once. -/
theorem pure {a : α} (h : onElement a) :
    Recorded (pure a) (pure a) s [] onElement [] where
  run record := by rw [List.map_nil, List.append_nil]; rfl
  obeys := .complete
  inPlace := ⟨fun _ => ⟨a, s, rfl, h⟩, fun _ _ hc => nomatch hc⟩

/-- A note is no call. -/
theorem note (e : Event) {ev : Expr.Evaluator} {walk : Walk} :
    Recorded ((Acts.recording ev walk).note e) (Run.note e) s [] (fun _ => True) [] where
  run _ := rfl
  obeys := .complete
  inPlace := ⟨fun _ => ⟨(), _, rfl, trivial⟩, fun _ _ hc => nomatch hc⟩

/-- A call is recorded with its answer. -/
theorem call (call : HandlerCall) (site : Site) (ev : Expr.Evaluator) (walk : Walk) :
    Recorded ((Acts.recording ev walk).call call site) (call.make ev walk site) s [call]
      (fun reply => ∃ e locals, reply = .stays e locals)
      [⟨call, ((call.make ev walk site).run.run s).1⟩] where
  run _ := rfl
  obeys := by
    cases h : AnsweredCall.leavesInPlace ⟨call, ((call.make ev walk site).run.run s).1⟩ with
    | true => exact .next h .complete
    | false => exact .last h
  inPlace := by
    rw [List.forall_mem_singleton, AnsweredCall.leavesInPlace_iff]
    constructor
    · rintro ⟨e, locals, h⟩
      exact ⟨.stays e locals, _, Prod.ext h rfl, e, locals, rfl⟩
    · rintro ⟨_, s', h, e, locals, rfl⟩
      exact ⟨e, locals, congrArg Prod.fst h⟩

/-- Of two parts the second is recorded if the first ends with the element there. Otherwise the
second has to leave everything as it is. -/
theorem bind {f' : α → Recording β} {f : α → Run β} {onElement' : β → Prop}
    (h : Recorded recording plain s asked onElement made)
    (hon : ∀ a s', plain.Gives s a s' → onElement a →
      ∃ made', Recorded (f' a) (f a) s' asked' onElement' made')
    (hoff : ∀ a, ¬ onElement a →
      ∃ b, f' a = Pure.pure b ∧ f a = Pure.pure b ∧ ¬ onElement' b) :
    ∃ made', Recorded (recording >>= f') (plain >>= f) s (asked ++ asked') onElement' made' := by
  rcases hplain : plain.run.run s with ⟨a | a, s'⟩
  · -- A failure ends both parts.
    have hgone : ¬ ∀ c ∈ made, c.leavesInPlace = true := by
      rw [h.inPlace]
      rintro ⟨b, s₁, hb, -⟩
      rw [show plain.run.run s = _ from hb] at hplain
      cases hplain
    refine ⟨made, fun record => ?_, h.obeys.append_asked hgone, ?_⟩
    · rw [Recording.run_bind, h.run, run_bind, hplain]
    · refine iff_of_false hgone ?_
      rintro ⟨b, s₁, hb, -⟩
      rw [Gives, run_bind, hplain] at hb
      cases hb
  · have hgives : plain.Gives s a s' := hplain
    -- If the first part is through but the element is gone, no call follows: what is recorded so
    -- far is all, and the last call on it is the one that did not leave the element in place.
    by_cases ha : onElement a
    · obtain ⟨made', h'⟩ := hon a s' hgives ha
      have hall : ∀ c ∈ made, c.leavesInPlace = true := h.inPlace.mpr ⟨a, s', hgives, ha⟩
      refine ⟨made ++ made', fun record => ?_, h.obeys.append hall h'.obeys, ?_⟩
      · rw [Recording.run_bind, h.run, run_bind, hplain]
        dsimp only
        rw [h'.run, List.map_append, List.append_assoc]
      · rw [List.forall_mem_append, h'.inPlace, and_iff_right hall]
        simp only [gives_bind_iff]
        constructor
        · rintro ⟨b, s₁, hb, hb'⟩
          exact ⟨b, s₁, ⟨a, s', hgives, hb⟩, hb'⟩
        · rintro ⟨b, s₁, ⟨a', s₂, ha', hb⟩, hb'⟩
          obtain ⟨rfl, rfl⟩ := hgives.unique ha'
          exact ⟨b, s₁, hb, hb'⟩
    · obtain ⟨b, hf', hf, hb⟩ := hoff a ha
      have hgone : ¬ ∀ c ∈ made, c.leavesInPlace = true := by
        rw [h.inPlace]
        rintro ⟨a', s₁, ha', hon⟩
        obtain ⟨rfl, -⟩ := hgives.unique ha'
        exact ha hon
      refine ⟨made, fun record => ?_, h.obeys.append_asked hgone, ?_⟩
      · rw [Recording.run_bind, h.run, run_bind, hplain]
        dsimp only
        rw [hf', hf]
        rfl
      · refine iff_of_false hgone ?_
        rintro ⟨b', s₁, hb', hon⟩
        obtain ⟨a', s₂, ha', hb'⟩ := gives_bind_iff.mp hb'
        obtain ⟨rfl, rfl⟩ := hgives.unique ha'
        rw [hf] at hb'
        obtain ⟨rfl, -⟩ := gives_pure_iff.mp hb'
        exact hb hon

/-- A note comes before what it does not change. -/
theorem after_note {e : Event} {ev : Expr.Evaluator} {walk : Walk} {f' : Unit → Recording β}
    {f : Unit → Run β} {onElement' : β → Prop}
    (h : ∀ s', ∃ made', Recorded (f' ()) (f ()) s' asked onElement' made') :
    ∃ made', Recorded ((Acts.recording ev walk).note e >>= f') (Run.note e >>= f) s asked
      onElement' made' := by
  show ∃ made', Recorded _ _ s ([] ++ asked) onElement' made'
  exact (note e).bind (fun _ s₁ _ _ => h s₁) fun _ h => (h trivial).elim

end Recorded

/-! ### What is recorded on an element -/

/-- Whether an element is still there. -/
def Progress.IsOn (progress : Progress) : Prop := ∃ site, progress = .on site

section

variable (ev : Expr.Evaluator) (walk : Walk)

/-- The directives of one language are handled in the order of its tags, whatever a handler does
to the attributes in between. -/
theorem onTags_recorded (l : Language) (site : Site) (waiting : List (String × String))
    (tags : List String) (s : RunState) : ∃ made,
    Recorded ((Acts.recording ev walk).onTags l site waiting tags)
      ((Acts.plain ev walk).onTags l site waiting tags) s (l.callsFor waiting tags)
      (fun r => r.1.IsOn) made := by
  -- What still waits is known from the entry and from the tags passed, not from the element.
  induction tags generalizing site waiting s with
  | nil => exact ⟨[], .pure ⟨site, rfl⟩⟩
  | cons tag tags ih =>
    rw [Language.callsFor_cons]
    unfold Acts.onTags
    cases waiting.lookup tag with
    | none => exact ih site waiting s
    | some raw =>
      refine Recorded.after_note fun s₁ => ?_
      refine (Recorded.call _ _ ev walk).bind (fun reply s₂ _ hstays => ?_) (fun reply hgone => ?_)
      · obtain ⟨e, locals, rfl⟩ := hstays
        exact ih _ _ s₂
      · cases reply with
        | stays e locals => exact (hgone ⟨e, locals, rfl⟩).elim
        | becomes | opens => exact ⟨_, rfl, rfl, fun ⟨_, h⟩ => nomatch h⟩

/-- The languages come one after the other. What one leaves over concerns no other, since the
namespaces differ. -/
theorem onLanguages_recorded {languages : List Language}
    (hdistinct : (languages.map Language.uri).Nodup) (site : Site) (pending : Pending)
    (s : RunState) : ∃ made,
    Recorded ((Acts.recording ev walk).onLanguages site pending languages)
      ((Acts.plain ev walk).onLanguages site pending languages) s
      (languages.flatMap fun l => l.callsFor ((pending.lookup l.uri).getD []) l.tags)
      Progress.IsOn made := by
  induction languages generalizing site pending s with
  | nil => exact ⟨[], .pure ⟨site, rfl⟩⟩
  | cons l ls ih =>
    obtain ⟨hnew, hdistinct⟩ := List.nodup_cons.mp hdistinct
    rw [List.flatMap_cons]
    unfold Acts.onLanguages
    cases pending.lookup l.uri with
    | none =>
      rw [Option.getD_none, Language.callsFor_nothing, List.nil_append]
      exact ih hdistinct site pending s
    | some waiting =>
      obtain ⟨made, hmade⟩ := onTags_recorded ev walk l site waiting l.tags s
      refine hmade.bind (fun r s₁ _ hon => ?_) (fun r hgone => ?_)
      · obtain ⟨progress, left⟩ := r
        obtain ⟨here, hhere⟩ := hon
        cases hhere
        -- What this language leaves over is entered under its own namespace, and no other language
        -- behind it has that one. So the others are asked for the same as before.
        have hothers : ls.flatMap (fun l' => l'.callsFor ((pending.lookup l'.uri).getD []) l'.tags)
            = ls.flatMap fun l' =>
                l'.callsFor (((pending.update l.uri left).lookup l'.uri).getD []) l'.tags := by
          refine List.flatMap_congr fun l' hl' => ?_
          have hother : l'.uri ≠ l.uri := fun h => hnew (h ▸ List.mem_map_of_mem hl')
          rw [Pending.lookup_update_of_ne _ hother]
        rw [hothers]
        dsimp only
        split
        · exact Recorded.after_note fun s₂ => ih hdistinct _ _ s₂
        · exact ih hdistinct _ _ s₁
      · obtain ⟨progress, left⟩ := r
        cases progress with
        | on here => exact (hgone ⟨here, rfl⟩).elim
        | done reply => exact ⟨_, rfl, rfl, fun ⟨_, h⟩ => nomatch h⟩

/-- The walker on an element, recorded: the calls that are made for all languages, and the step to
the children if those leave the element in place. -/
theorem onElement_recorded {languages : List Language}
    (hdistinct : (languages.map Language.uri).Nodup) (site : Site) (s : RunState) :
    ∃ made walked,
      ((Acts.recording ev walk).onElement languages site).run.run (s, [])
        = (((processWith languages ev walk site).run.run s).1,
          ((processWith languages ev walk site).run.run s).2, made.map .called ++ walked) ∧
      Obeys (callsOn languages site.element.tag) made ∧
      walked = if ∀ c ∈ made, c.leavesInPlace = true then [.walked] else [] := by
  have hasked : (languages.flatMap fun l =>
      l.callsFor (((pendingOn languages site.element.tag).lookup l.uri).getD []) l.tags)
      = callsOn languages site.element.tag :=
    List.flatMap_congr fun l hl => by rw [lookup_pendingOn hl]; rfl
  obtain ⟨made, hmade⟩ := onLanguages_recorded ev walk hdistinct site
    (pendingOn languages site.element.tag) s
  rw [hasked] at hmade
  refine ⟨made, _, ?_, hmade.obeys, rfl⟩
  have hinPlace := hmade.inPlace
  rw [← Acts.onElement_plain]
  unfold Acts.onElement
  rw [Recording.run_bind, run_bind, hmade.run, List.nil_append]
  unfold Gives at hinPlace
  -- The step to the children is made just if the languages end with the element there, and
  -- `inPlace` says the same of the calls.
  generalize ((Acts.plain ev walk).onLanguages site (pendingOn languages site.element.tag)
    languages).run.run s = reached at hinPlace ⊢
  rcases reached with ⟨_ | _ | reply, s'⟩
  · have hgone : ¬ ∀ c ∈ made, c.leavesInPlace = true := by
      rw [hinPlace]
      rintro ⟨_, _, h, -⟩
      cases h
    rw [if_neg hgone, List.append_nil]
  · rename_i here
    rw [if_pos (hinPlace.mpr ⟨.on here, s', rfl, here, rfl⟩)]
    rfl
  · have hgone : ¬ ∀ c ∈ made, c.leavesInPlace = true := by
      rw [hinPlace]
      rintro ⟨_, _, h, here, rfl⟩
      cases h
    rw [if_neg hgone, List.append_nil]
    rfl

end

/-- Handlers are called in order. On an element the walker calls handlers as the languages stand,
those of a language in the order of its tags, one call for each directive that the element carried
when processing came to it and with the value it had then. All calls are made, and the children
are processed after them, unless a call fails or its answer is not that the element stays. That
call is the last then, and the children are not processed. -/
theorem handlers_called_in_order {languages : List Language}
    (hdistinct : (languages.map Language.uri).Nodup) (ev : Expr.Evaluator) (fuel : Nat)
    (site : Site) (s : RunState) : ∃ (made : List AnsweredCall) (walked : List Step),
    ((Acts.recording ev (processNode languages ev fuel)).onElement languages site).run.run (s, [])
      = (((processNode languages ev (fuel + 1) site).run.run s).1,
        ((processNode languages ev (fuel + 1) site).run.run s).2, made.map .called ++ walked) ∧
    made.map AnsweredCall.call <+: callsOn languages site.element.tag ∧
    (∀ c ∈ made, (site.element.tag.directivesIn c.call.language.uri).lookup c.call.directive
      = some c.call.raw) ∧
    (made.map fun c => c.call.key).Nodup ∧
    (∀ c ∈ made.dropLast, c.leavesInPlace = true) ∧
    ((∀ c ∈ made, c.leavesInPlace = true) →
      made.map AnsweredCall.call = callsOn languages site.element.tag ∧ walked = [.walked]) ∧
    ((∃ c ∈ made, c.leavesInPlace = false) → walked = []) := by
  obtain ⟨made, walked, hrun, hobeys, rfl⟩ :=
    onElement_recorded ev (processNode languages ev fuel) hdistinct site s
  have hmade := hobeys.made_isPrefix_asked
  refine ⟨made, _, hrun, hmade, fun c hc => ?_, ?_, hobeys.all_but_last, fun hall => ?_, ?_⟩
  · exact (mem_callsOn (hmade.subset (List.mem_map_of_mem hc))).2
  · have hkeys := (nodup_callsOn hdistinct site.element.tag).sublist
      (hmade.sublist.map HandlerCall.key)
    rwa [List.map_map] at hkeys
  · exact ⟨hobeys.eq_asked hall, if_pos hall⟩
  · rintro ⟨c, hc, hgone⟩
    refine if_neg fun hall => ?_
    rw [hall c hc] at hgone
    cases hgone

/-- An element with directives of two languages, the second of which is not asked any more. -/
def droppedNote : Element where
  tag := ⟨.plain "p",
    [⟨⟨some ⟨some "tal", standardUri⟩, "content"⟩, "x", []⟩,
      ⟨⟨some ⟨some "t", "urn:t"⟩, "drop"⟩, "", []⟩,
      ⟨⟨some ⟨some "t", "urn:t"⟩, "set"⟩, "x string:y", []⟩], [], some 1⟩
  children := [.text "x"]

/-- A note that an editing language drops: the standard language is not asked any more. -/
theorem handlers_called_in_order_droppedNote : ∃ (made : List AnsweredCall) (walked : List Step),
    ((Acts.recording .standard (processNode [.usualEdits 0, .standard] .standard 1)).onElement
        [.usualEdits 0, .standard] ⟨droppedNote, [], []⟩).run.run (default, [])
      = (((processNode [.usualEdits 0, .standard] .standard 2 ⟨droppedNote, [], []⟩).run.run
          default).1,
        ((processNode [.usualEdits 0, .standard] .standard 2 ⟨droppedNote, [], []⟩).run.run
          default).2, made.map .called ++ walked) ∧
      (made.map fun c => (c.call.directive, c.call.raw)) = [("set", "x string:y"), ("drop", "")] ∧
      walked = [] := by
  have hrecord : (((Acts.recording .standard (processNode [.usualEdits 0, .standard] .standard
      1)).onElement [.usualEdits 0, .standard] ⟨droppedNote, [], []⟩).run.run (default, [])).2.2.map
        (fun step => match step with
          | .called c => some (c.call.directive, c.call.raw)
          | .walked => none)
      = [some ("set", "x string:y"), some ("drop", "")] := by decide +kernel
  obtain ⟨made, walked, hrun, -, -, -, -, hall, hstop⟩ :=
    handlers_called_in_order (show ([Language.usualEdits 0, .standard].map Language.uri).Nodup by
      decide) .standard 1 ⟨droppedNote, [], []⟩ default
  rw [hrun, List.map_append, List.map_map] at hrecord
  by_cases h : ∀ c ∈ made, c.leavesInPlace = true
  · -- The step to the children would be on record.
    rw [(hall h).2] at hrecord
    have hlast := congrArg List.getLast? hrecord
    rw [List.map_singleton, List.getLast?_concat] at hlast
    cases hlast
  · have hgone : walked = [] := hstop (by simpa using h)
    rw [hgone, List.map_nil, List.append_nil] at hrecord
    refine ⟨made, walked, hrun, ?_, hgone⟩
    refine List.map_injective_iff.mpr (fun _ _ h => Option.some.inj h) ?_
    rw [List.map_map]
    exact hrecord

end AttrTemplates
