import Mathlib.Data.List.Count
import AttrTemplates.Proofs.Template.Dispatch
import AttrTemplates.Template.Basic

/-!
# `AttrTemplates.Proofs.Template.Warned`: the attributes that warnings name

When the directives of a language have been handled on an element, a warning names what is left in
its namespace. Languages may share a namespace. What one leaves over is handed to the next, and
each of them warns about what is left behind it. So an attribute is named as often as there are
languages of its namespace before the first that knows it: a language in front of that one reports
as unhandled what is handled later, and what nobody knows is named by all.

A handler is an arbitrary function and may note what it likes, warnings included. So the warnings of
the walker itself are recorded, by the walker over other acts (`Acts.warning`).

* `leftBy` is what the languages so far leave over, `unmatched` what they warn about;
* `onLanguages_warning` says that the warnings name just this, and `count_unmatched` counts it;
* `warnings_name_left` is the result, with what becomes of it when the namespaces are different.
-/

set_option autoImplicit false

namespace AttrTemplates

open Xml Run

/-- The attributes that a warning names, each with its namespace. -/
def Event.named : Event → List (String × String)
  | unhandled names uri _ _ => names.map (uri, ·)
  | _ => []

/-! ### What languages leave over -/

/-- Whether one of some languages knows a directive of a namespace. -/
def declaredIn (languages : List Language) (uri name : String) : Bool :=
  languages.any fun l => l.uri == uri && l.tags.contains name

/-- The directives in a namespace that some languages leave over on an element. -/
def leftBy (languages : List Language) (uri : String) (t : Tag) : List (String × String) :=
  (t.directivesIn uri).filter fun d => !declaredIn languages uri d.1

/-- What languages warn about on an element, after others. -/
def unmatched (before : List Language) (t : Tag) : List Language → List (String × String)
  | [] => []
  | l :: ls =>
    (leftBy (before ++ [l]) l.uri t).map (fun d => (l.uri, d.1)) ++ unmatched (before ++ [l]) t ls

/-- With one more language a name is declared if it was, or if that language declares it. -/
theorem declaredIn_append_singleton (before : List Language) (l : Language) (uri name : String) :
    declaredIn (before ++ [l]) uri name
      = (declaredIn before uri name || l.uri == uri && l.tags.contains name) := by
  simp [declaredIn]

/-- A language of another namespace takes nothing. -/
theorem leftBy_of_ne (before : List Language) {l : Language} {uri : String} (h : l.uri ≠ uri)
    (t : Tag) : leftBy (before ++ [l]) uri t = leftBy before uri t := by
  simp [leftBy, declaredIn_append_singleton, beq_false_of_ne h]

/-- A language takes what it knows from what is left. -/
theorem leftBy_own (before : List Language) (l : Language) (t : Tag) :
    leftBy (before ++ [l]) l.uri t
      = (leftBy before l.uri t).filter fun d => !l.tags.contains d.1 := by
  unfold leftBy
  rw [List.filter_filter]
  refine List.filter_congr fun d _ => ?_
  rw [declaredIn_append_singleton, beq_self_eq_true, Bool.true_and, Bool.not_or, Bool.and_comm]

/-- The languages of a namespace in front of the first that knows a directive. -/
def waitsFor (languages : List Language) (uri name : String) : List Language :=
  (languages.filter (·.uri == uri)).takeWhile fun l => !l.tags.contains name

/-- A language of the namespace that knows the name ends the row, and one that does not belongs to
it. -/
theorem waitsFor_cons (l : Language) (ls : List Language) (uri name : String) :
    waitsFor (l :: ls) uri name = if l.uri = uri then
        if l.tags.contains name then [] else l :: waitsFor ls uri name
      else waitsFor ls uri name := by
  unfold waitsFor
  by_cases huri : l.uri = uri
  · rw [List.filter_cons_of_pos (by simpa using huri), List.takeWhile_cons, if_pos huri]
    cases l.tags.contains name <;> rfl
  · rw [List.filter_cons_of_neg (by simpa using huri), if_neg huri]

/-- How often a directive is among what is left over in its namespace, or in another. -/
theorem count_leftBy (languages : List Language) (t : Tag) (u uri name : String) :
    ((leftBy languages u t).map fun d => (u, d.1)).count (uri, name)
      = if u = uri ∧ declaredIn languages uri name = false then
          ((t.directivesIn uri).map Prod.fst).count name
        else 0 := by
  by_cases hu : u = uri
  · subst hu
    have hpair : (leftBy languages u t).map (fun d => (u, d.1))
        = ((leftBy languages u t).map Prod.fst).map (Prod.mk u) := by
      rw [List.map_map]
      rfl
    rw [hpair, List.count_map_of_injective _ _ fun _ _ h => congrArg Prod.snd h]
    -- What languages leave over is a filter by name, so a directive is left as often as it was
    -- there, or not at all.
    have hleft : (leftBy languages u t).map Prod.fst
        = ((t.directivesIn u).map Prod.fst).filter fun n => !declaredIn languages u n := by
      rw [List.filter_map]
      rfl
    rw [hleft]
    cases hdeclared : declaredIn languages u name with
    | true =>
      rw [if_neg (by simp), List.count_eq_zero]
      intro hmem
      simpa [hdeclared] using (List.mem_filter.mp hmem).2
    | false => rw [if_pos ⟨rfl, rfl⟩, List.count_filter (by simp [hdeclared])]
  · rw [if_neg fun h => hu h.1, List.count_eq_zero]
    intro hmem
    obtain ⟨d, -, hd⟩ := List.mem_map.mp hmem
    exact hu (congrArg Prod.fst hd)

/-- A directive is named by each language of its namespace in front of the first that knows it. -/
theorem count_unmatched (before ls : List Language) (t : Tag) (uri name : String) :
    (unmatched before t ls).count (uri, name)
      = if declaredIn before uri name then 0
        else ((t.directivesIn uri).map Prod.fst).count name * (waitsFor ls uri name).length := by
  induction ls generalizing before with
  | nil => simp [unmatched, waitsFor]
  | cons l ls ih =>
    rw [unmatched, List.count_append, ih, count_leftBy, waitsFor_cons,
      declaredIn_append_singleton]
    by_cases huri : l.uri = uri
    · cases declaredIn before uri name with
      | true => simp
      | false =>
        cases htags : l.tags.contains name with
        | true => simp [huri]
        | false => simp [huri, Nat.mul_add, Nat.add_comm]
    · simp [huri, beq_false_of_ne huri]

/-! ### The warnings of the walker -/

/-- The acts of the walker, with the warnings that it gives itself on record. -/
def Acts.warning (ev : Expr.Evaluator) (walk : Walk) : Acts (StateT (List Event) Run) where
  note e := do
    StateT.lift (Run.note e)
    modify (· ++ [e].filter Event.isWarning)
  call call site := StateT.lift (call.make ev walk site)
  below site := StateT.lift (processBelow walk site)

section

variable {α β : Type} {ev : Expr.Evaluator} {walk : Walk} {s s' : RunState}
  {given given' : List Event}

/-- A sequence gives what its second part does from what the first one gave and kept. -/
theorem warning_bind_gives_iff {r : StateT (List Event) Run α} {f : α → StateT (List Event) Run β}
    {b : β} : ((r >>= f).run given).Gives s (b, given') s' ↔ ∃ a given₁ s₁,
      (r.run given).Gives s (a, given₁) s₁ ∧ ((f a).run given₁).Gives s₁ (b, given') s' := by
  rw [StateT.run_bind, gives_bind_iff]
  constructor
  · rintro ⟨⟨a, given₁⟩, s₁, h, h'⟩
    exact ⟨a, given₁, s₁, h, h'⟩
  · rintro ⟨a, given₁, s₁, h, h'⟩
    exact ⟨(a, given₁), s₁, h, h'⟩

/-- A result that is given at once keeps the warnings as they are. -/
theorem warning_pure_gives_iff {a b : α} :
    ((pure a : StateT (List Event) Run α).run given).Gives s (b, given') s' ↔
      b = a ∧ given' = given ∧ s' = s := by
  rw [StateT.run_pure, gives_pure_iff, Prod.mk.injEq, and_assoc]

/-- A step of the run keeps the warnings as they are. -/
theorem warning_lift_gives_iff {r : Run α} {a : α} :
    ((StateT.lift r : StateT (List Event) Run α).run given).Gives s (a, given') s' ↔
      r.Gives s a s' ∧ given' = given := by
  rw [StateT.run_lift, gives_bind_iff]
  constructor
  · rintro ⟨a', s₁, h, hpure⟩
    obtain ⟨hpair, rfl⟩ := gives_pure_iff.mp hpure
    cases hpair
    exact ⟨h, rfl⟩
  · rintro ⟨h, rfl⟩
    exact ⟨a, s', h, gives_pure_iff.mpr ⟨rfl, rfl⟩⟩

/-- A note is on record if it is a warning. -/
theorem warning_note_gives_iff {e : Event} {u : Unit} :
    (((Acts.warning ev walk).note e).run given).Gives s (u, given') s' ↔
      s' = s.noting [e] ∧ given' = given ++ [e].filter Event.isWarning := by
  show ((StateT.lift (Run.note e) >>= fun _ => _).run given).Gives s (u, given') s' ↔ _
  simp only [warning_bind_gives_iff, warning_lift_gives_iff, gives_note_iff]
  constructor
  · rintro ⟨_, _, _, ⟨rfl, rfl⟩, h⟩
    cases h
    exact ⟨rfl, rfl⟩
  · rintro ⟨rfl, rfl⟩
    exact ⟨(), given, _, ⟨rfl, rfl⟩, rfl⟩

/-- While the directives of one language are handled, the walker gives no warning. -/
theorem onTags_warning_gives_iff {l : Language} {site : Site} {waiting : List (String × String)}
    {tags : List String} {r : Progress × List (String × String)} :
    (((Acts.warning ev walk).onTags l site waiting tags).run given).Gives s (r, given') s' ↔
      (handleTags l ev walk site waiting tags).Gives s r s' ∧ given' = given := by
  induction tags generalizing site waiting s with
  | nil =>
    show ((pure _ : StateT (List Event) Run _).run given).Gives s _ s' ↔ _
    rw [warning_pure_gives_iff, handleTags, gives_pure_iff, and_assoc, and_comm (a := given' = _)]
  | cons tag tags ih =>
    unfold Acts.onTags handleTags
    cases waiting.lookup tag with
    | none => exact ih
    | some raw =>
      -- Both sides take the same steps: the announcement, the call, and what follows its reply.
      have hquiet : ∀ element line,
          given ++ [Event.directive l.uri tag raw element line].filter Event.isWarning = given :=
        fun _ _ => List.append_nil given
      simp only [warning_bind_gives_iff, warning_note_gives_iff, gives_bind_iff, gives_note_iff,
        hquiet]
      constructor
      · rintro ⟨_, _, _, ⟨rfl, rfl⟩, reply, _, s₁, hcall, h⟩
        obtain ⟨hmade, rfl⟩ := warning_lift_gives_iff.mp hcall
        cases reply with
        | stays e locals =>
          obtain ⟨hrest, rfl⟩ := ih.mp h
          exact ⟨⟨(), _, rfl, _, s₁, hmade, hrest⟩, rfl⟩
        | becomes | opens =>
          obtain ⟨hr, rfl, hs⟩ := warning_pure_gives_iff.mp h
          exact ⟨⟨(), _, rfl, _, s₁, hmade, gives_pure_iff.mpr ⟨hr, hs⟩⟩, rfl⟩
      · rintro ⟨⟨_, _, rfl, reply, s₁, hcall, h⟩, rfl⟩
        refine ⟨(), _, _, ⟨rfl, rfl⟩, reply, _, s₁, warning_lift_gives_iff.mpr ⟨hcall, rfl⟩, ?_⟩
        cases reply with
        | stays e locals => exact ih.mpr ⟨h, rfl⟩
        | becomes | opens =>
          obtain ⟨hr, hs⟩ := gives_pure_iff.mp h
          exact warning_pure_gives_iff.mpr ⟨hr, rfl, hs⟩

/-- The warning about what a language leaves over, if it leaves anything. -/
def warningAbout (l : Language) (site : Site) (left : List (String × String)) : List Event :=
  if left.isEmpty then []
  else [.unhandled (left.map (·.1)) l.uri site.element.tag.name.written site.element.tag.line]

/-- A warning names everything that is left. -/
theorem named_warningAbout (l : Language) (site : Site) (left : List (String × String)) :
    (warningAbout l site left).flatMap Event.named = left.map fun d => (l.uri, d.1) := by
  unfold warningAbout
  cases left with
  | nil => rfl
  | cons d ds =>
    rw [if_neg (by simp), List.flatMap_singleton, Event.named, List.map_map]
    rfl

/-- When the directives of a language have been handled, the rest of them is warned about, and the
next language follows. -/
theorem handleLanguages_cons_gives_iff {l : Language} {ls : List Language} {site here : Site}
    {pending : Pending} {waiting : List (String × String)}
    (hlookup : pending.lookup l.uri = some waiting) :
    (handleLanguages ev walk site pending (l :: ls)).Gives s (.on here) s' ↔ ∃ site₁ left s₁,
      (handleTags l ev walk site waiting l.tags).Gives s (.on site₁, left) s₁ ∧
      (handleLanguages ev walk site₁ (pending.update l.uri left) ls).Gives
        (s₁.noting (warningAbout l site₁ left)) (.on here) s' := by
  rw [handleLanguages, hlookup]
  dsimp only
  rw [gives_bind_iff]
  constructor
  · rintro ⟨⟨progress, left⟩, s₁, htags, h⟩
    cases progress with
    | done reply =>
      obtain ⟨hdone, -⟩ := gives_pure_iff.mp h
      cases hdone
    | on site₁ =>
      refine ⟨site₁, left, s₁, htags, ?_⟩
      -- Nothing is noted where nothing is left.
      cases left with
      | nil => simpa [warningAbout] using h
      | cons d ds =>
        obtain ⟨_, s₂, hnote, h⟩ := gives_bind_iff.mp h
        rw [gives_note_iff.mp hnote] at h
        exact h
  · rintro ⟨site₁, left, s₁, htags, h⟩
    refine ⟨_, s₁, htags, ?_⟩
    cases left with
    | nil => simpa [warningAbout] using h
    | cons d ds => exact gives_bind_iff.mpr ⟨(), _, gives_note_iff.mpr rfl, h⟩

/-- The same for the walker whose warnings are recorded. -/
theorem onLanguages_warning_cons {l : Language} {ls : List Language} {site site₁ here : Site}
    {pending : Pending} {waiting left : List (String × String)} {s₁ : RunState}
    (hlookup : pending.lookup l.uri = some waiting)
    (htags : (handleTags l ev walk site waiting l.tags).Gives s (.on site₁, left) s₁)
    (h : (((Acts.warning ev walk).onLanguages site₁ (pending.update l.uri left) ls).run
      (given ++ warningAbout l site₁ left)).Gives (s₁.noting (warningAbout l site₁ left))
        (.on here, given') s') :
    (((Acts.warning ev walk).onLanguages site pending (l :: ls)).run given).Gives s
      (.on here, given') s' := by
  rw [Acts.onLanguages, hlookup]
  refine warning_bind_gives_iff.mpr ⟨_, given, s₁, onTags_warning_gives_iff.mpr ⟨htags, rfl⟩, ?_⟩
  cases left with
  | nil => simpa [warningAbout] using h
  | cons d ds =>
    exact warning_bind_gives_iff.mpr ⟨(), _, _, warning_note_gives_iff.mpr ⟨rfl, rfl⟩, h⟩

/-- What is left when all directives of a language have been handled. -/
theorem left_of_handleTags {l : Language} {site here : Site} {waiting left : List (String × String)}
    {tags : List String}
    (h : (handleTags l ev walk site waiting tags).Gives s (.on here, left) s') :
    left = waiting.filter fun d => !tags.contains d.1 := by
  induction tags generalizing site waiting s with
  | nil =>
    obtain ⟨hpair, -⟩ := gives_pure_iff.mp h
    cases hpair
    simp
  | cons tag tags ih =>
    unfold handleTags at h
    cases hlookup : waiting.lookup tag with
    | none =>
      rw [hlookup] at h
      rw [ih h]
      -- The tag is the name of nothing that waits, so it makes no difference to the filter.
      refine List.filter_congr fun d hd => ?_
      have hne := List.lookup_eq_none_iff.mp hlookup d hd
      have hother : d.1 ≠ tag := by simpa [bne_iff_ne, ne_comm] using hne
      rw [List.contains_cons, beq_false_of_ne hother, Bool.false_or]
    | some raw =>
      rw [hlookup] at h
      simp only [gives_bind_iff] at h
      obtain ⟨_, _, -, reply, s₁, -, h⟩ := h
      cases reply with
      | stays e locals =>
        rw [ih h, List.filter_filter]
        refine List.filter_congr fun d _ => ?_
        rw [List.contains_cons, Bool.not_or, Bool.and_comm, bne]
      | becomes | opens =>
        obtain ⟨hpair, -⟩ := gives_pure_iff.mp h
        cases hpair

/-- The handlers of a language take no note back. -/
def Language.OnlyAdds (l : Language) (ev : Expr.Evaluator) (walk : Walk) : Prop :=
  ∀ tag raw site s reply s', (l.handle ev walk tag raw site).Gives s reply s' → s.Grows s'

/-- The tags of a language only add to the notes if its handlers do. -/
theorem grows_of_handleTags {l : Language} (hadds : l.OnlyAdds ev walk) {site : Site}
    {waiting : List (String × String)} {tags : List String}
    {r : Progress × List (String × String)}
    (h : (handleTags l ev walk site waiting tags).Gives s r s') : s.Grows s' := by
  induction tags generalizing site waiting s with
  | nil =>
    obtain ⟨-, rfl⟩ := gives_pure_iff.mp h
    exact .rfl
  | cons tag tags ih =>
    unfold handleTags at h
    split at h
    · exact ih h
    · simp only [gives_bind_iff, gives_note_iff] at h
      obtain ⟨_, _, rfl, reply, s₁, hcall, h⟩ := h
      refine (s.grows_noting _).trans ((hadds _ _ _ _ _ _ hcall).trans ?_)
      split at h
      · exact ih h
      · obtain ⟨-, rfl⟩ := gives_pure_iff.mp h
        exact .rfl

/-- What waits is what the languages before have left over, as far as it concerns those that
follow. -/
def Pending.IsLeft (pending : Pending) (before ls : List Language) (t : Tag) : Prop :=
  ∀ l ∈ ls, (pending.lookup l.uri).getD [] = leftBy before l.uri t

/-- Once a language is through, only what waits in its namespace may have changed. -/
theorem Pending.IsLeft.next {pending pending' : Pending} {before ls : List Language} {l : Language}
    {t : Tag} (h : pending.IsLeft before (l :: ls) t)
    (hothers : ∀ u, u ≠ l.uri → pending'.lookup u = pending.lookup u)
    (hown : (pending'.lookup l.uri).getD [] = leftBy (before ++ [l]) l.uri t) :
    pending'.IsLeft (before ++ [l]) ls t := by
  intro l' hl'
  by_cases huri : l'.uri = l.uri
  · rw [huri, hown]
  · rw [hothers _ huri, h l' (List.mem_cons_of_mem l hl'), leftBy_of_ne before (Ne.symm huri)]

/-- What was pending under a namespace is what was put there. -/
theorem Pending.lookup_update_self {pending : Pending} {uri : String}
    {old : List (String × String)} (h : pending.lookup uri = some old)
    (ds : List (String × String)) : (pending.update uri ds).lookup uri = some ds := by
  induction pending with
  | nil => cases h
  | cons d rest ih =>
    obtain ⟨u, waiting⟩ := d
    unfold update at ih ⊢
    rw [List.map_cons]
    dsimp only
    by_cases hu : u = uri
    · rw [if_pos hu, hu, List.lookup_cons_self]
    · rw [List.lookup_cons, beq_false_of_ne (Ne.symm hu)] at h
      rw [if_neg hu, List.lookup_cons, beq_false_of_ne (Ne.symm hu)]
      exact ih h

/-- The warnings of languages, one after the other, name what each of them leaves over. If no handler
takes notes back, they stay noted. -/
theorem onLanguages_warning (given : List Event) {before ls : List Language} {t : Tag}
    {site here : Site} {pending : Pending} (hleft : pending.IsLeft before ls t)
    (h : (handleLanguages ev walk site pending ls).Gives s (.on here) s') :
    ∃ warnings, (((Acts.warning ev walk).onLanguages site pending ls).run given).Gives s
        (.on here, given ++ warnings) s' ∧
      warnings.flatMap Event.named = unmatched before t ls ∧
      ((∀ l ∈ ls, l.OnlyAdds ev walk) → ∃ new, s'.events = s.events ++ new ∧
        warnings.Sublist new) := by
  -- By induction on the languages that are still to come. That `IsLeft` holds of those that have
  -- been is the invariant: what waits is what they leave over.
  induction ls generalizing before site pending s given with
  | nil =>
    obtain ⟨hon, rfl⟩ := gives_pure_iff.mp h
    cases hon
    exact ⟨[], warning_pure_gives_iff.mpr ⟨rfl, List.append_nil _, rfl⟩, rfl,
      fun _ => ⟨[], (List.append_nil _).symm, .slnil⟩⟩
  | cons l ls ih =>
    have hwaiting := hleft l List.mem_cons_self
    rw [unmatched, leftBy_own, ← hwaiting]
    cases hlookup : pending.lookup l.uri with
    | none =>
      rw [handleLanguages, hlookup] at h
      have hnext : pending.IsLeft (before ++ [l]) ls t := by
        refine hleft.next (fun _ _ => rfl) ?_
        rw [leftBy_own, ← hwaiting, hlookup]
        rfl
      obtain ⟨warnings, hwarnings, hnamed, hnoted⟩ := ih given hnext h
      refine ⟨warnings, ?_, hnamed, fun hadds => hnoted (List.forall_mem_cons.mp hadds).2⟩
      rw [Acts.onLanguages, hlookup]
      exact hwarnings
    | some waiting =>
      obtain ⟨site₁, left, s₁, htags, h⟩ := (handleLanguages_cons_gives_iff hlookup).mp h
      have hrest := left_of_handleTags htags
      have hnext : (pending.update l.uri left).IsLeft (before ++ [l]) ls t := by
        refine hleft.next (fun u hu => Pending.lookup_update_of_ne _ hu _) ?_
        rw [Pending.lookup_update_self hlookup, leftBy_own, ← hwaiting, hlookup, hrest]
        rfl
      obtain ⟨warnings, hwarnings, hnamed, hnoted⟩ :=
        ih (given ++ warningAbout l site₁ left) hnext h
      rw [List.append_assoc] at hwarnings
      refine ⟨_, onLanguages_warning_cons hlookup htags hwarnings, ?_, fun hadds => ?_⟩
      · rw [List.flatMap_append, named_warningAbout, hnamed, Option.getD_some, ← hrest]
      · obtain ⟨hown, hothers⟩ := List.forall_mem_cons.mp hadds
        obtain ⟨new₁, hnew₁⟩ := grows_of_handleTags hown htags
        obtain ⟨new, hnew, hsub⟩ := hnoted hothers
        refine ⟨new₁ ++ (warningAbout l site₁ left ++ new), ?_,
          (hsub.append_left _).trans (List.sublist_append_right _ _)⟩
        rw [hnew, RunState.noting_events, hnew₁, List.append_assoc, List.append_assoc]

/-- Where every handler leaves the element in place, all languages are asked. -/
theorem handleTags_stays {l : Language} (site : Site) (waiting : List (String × String))
    {tags : List String} (s : RunState)
    (hstays : ∀ tag ∈ tags, ∀ raw site s, ∃ e locals s',
      (l.handle ev walk tag raw site).Gives s (.stays e locals) s') :
    ∃ here left s', (handleTags l ev walk site waiting tags).Gives s (.on here, left) s' := by
  induction tags generalizing site waiting s with
  | nil => exact ⟨site, waiting, s, gives_pure_iff.mpr ⟨rfl, rfl⟩⟩
  | cons tag tags ih =>
    obtain ⟨hown, hothers⟩ := List.forall_mem_cons.mp hstays
    unfold handleTags
    split
    · exact ih site waiting s hothers
    · rename_i raw _
      simp only [gives_bind_iff, gives_note_iff]
      obtain ⟨e, locals, s₁, hcall⟩ := hown raw { site with element :=
          { site.element with tag := site.element.tag.withoutAttribute (attributeKey l.uri tag) } }
        (s.noting [_])
      obtain ⟨here, left, s', hrest⟩ := ih { site with element := e, locals } _ s₁ hothers
      exact ⟨here, left, s', (), _, rfl, _, s₁, hcall, hrest⟩

/-- If all languages leave every element in place, all of them are asked. -/
theorem handleLanguages_stays (site : Site) (pending : Pending) {ls : List Language} (s : RunState)
    (hstays : ∀ l ∈ ls, ∀ tag ∈ l.tags, ∀ raw site s, ∃ e locals s',
      (l.handle ev walk tag raw site).Gives s (.stays e locals) s') :
    ∃ here s', (handleLanguages ev walk site pending ls).Gives s (.on here) s' := by
  induction ls generalizing site pending s with
  | nil => exact ⟨site, s, gives_pure_iff.mpr ⟨rfl, rfl⟩⟩
  | cons l ls ih =>
    obtain ⟨hown, hothers⟩ := List.forall_mem_cons.mp hstays
    cases hlookup : pending.lookup l.uri with
    | none =>
      unfold handleLanguages
      rw [hlookup]
      exact ih site pending s hothers
    | some waiting =>
      obtain ⟨site₁, left, s₁, htags⟩ := handleTags_stays site waiting s hown
      obtain ⟨here, s', hrest⟩ := ih site₁ (pending.update l.uri left)
        (s₁.noting (warningAbout l site₁ left)) hothers
      exact ⟨here, s', (handleLanguages_cons_gives_iff hlookup).mpr
        ⟨site₁, left, s₁, htags, hrest⟩⟩

end

/-! ### Namespaces of their own -/

/-- The only language of a namespace warns about what it does not know. -/
theorem length_waitsFor_of_nodup {languages : List Language}
    (hdistinct : (languages.map Language.uri).Nodup) (uri name : String) :
    (waitsFor languages uri name).length
      = if (∃ l ∈ languages, l.uri = uri) ∧ ∀ l ∈ languages, l.uri = uri → name ∉ l.tags then 1
        else 0 := by
  induction languages with
  | nil => simp [waitsFor]
  | cons l ls ih =>
    obtain ⟨hnew, hdistinct⟩ := List.nodup_cons.mp hdistinct
    rw [waitsFor_cons]
    by_cases huri : l.uri = uri
    · -- This is the language of the namespace, so none behind it is.
      have hothers : ∀ l' ∈ ls, l'.uri ≠ uri := fun l' hl' h =>
        hnew (huri ▸ h ▸ List.mem_map_of_mem hl')
      have hnone : waitsFor ls uri name = [] := by
        unfold waitsFor
        rw [List.filter_eq_nil_iff.mpr fun l' hl' => by simpa using hothers l' hl']
        rfl
      rw [if_pos huri, hnone]
      -- A language that knows the name ends the count, and no later one has the namespace.
      by_cases htags : name ∈ l.tags
      · rw [if_pos (List.contains_iff_mem.mpr htags), if_neg]
        · rfl
        · exact fun h => h.2 l List.mem_cons_self huri htags
      · rw [if_neg (mt List.contains_iff_mem.mp htags), if_pos]
        · rfl
        · refine ⟨⟨l, List.mem_cons_self, huri⟩, fun l' hl' h => ?_⟩
          rcases List.mem_cons.mp hl' with rfl | hl'
          · exact htags
          · exact absurd h (hothers l' hl')
    · -- A language of another namespace does not count.
      rw [if_neg huri, ih hdistinct]
      simp [huri]

/-- What the warnings for an element name, when the handlers leave it in place. The walker gives
them before it goes on to the children. An attribute that the element carries on entry is named once
by every language of its namespace in front of the first that knows it, and no other attribute is
named.

So if the namespaces of the languages are different, just those attributes are named that lie in the
namespace of a language and are known to none, each once. -/
theorem warnings_name_left {languages : List Language} {ev : Expr.Evaluator} {walk : Walk}
    {site here : Site} {s s' : RunState}
    (h : (handleLanguages ev walk site (pendingOn languages site.element.tag) languages).Gives s
      (.on here) s') :
    ∃ warnings,
      (((Acts.warning ev walk).onLanguages site (pendingOn languages site.element.tag)
        languages).run []).Gives s (.on here, warnings) s' ∧
      (processWith languages ev walk site).run.run s = (processBelow walk here).run.run s' ∧
      ((∀ l ∈ languages, l.OnlyAdds ev walk) →
        ∃ new, s'.events = s.events ++ new ∧ warnings.Sublist new) ∧
      (∀ uri name, (warnings.flatMap Event.named).count (uri, name)
        = ((site.element.tag.directivesIn uri).map Prod.fst).count name
          * (waitsFor languages uri name).length) ∧
      ((languages.map Language.uri).Nodup → ∀ uri name,
        (warnings.flatMap Event.named).count (uri, name)
          = if (∃ l ∈ languages, l.uri = uri) ∧ ∀ l ∈ languages, l.uri = uri → name ∉ l.tags then
              ((site.element.tag.directivesIn uri).map Prod.fst).count name
            else 0) := by
  have hleft : (pendingOn languages site.element.tag).IsLeft [] languages site.element.tag := by
    intro l hl
    rw [lookup_pendingOn hl]
    exact (List.filter_eq_self.mpr fun _ _ => rfl).symm
  obtain ⟨warnings, hwarnings, hnamed, hnoted⟩ := onLanguages_warning [] hleft h
  -- By the run over the languages, which says what is named in front of what is declared.
  have hcount : ∀ uri name, (warnings.flatMap Event.named).count (uri, name)
      = ((site.element.tag.directivesIn uri).map Prod.fst).count name
        * (waitsFor languages uri name).length := by
    intro uri name
    rw [hnamed, count_unmatched, if_neg (by simp [declaredIn])]
  refine ⟨warnings, hwarnings, ?_, hnoted, hcount, fun hdistinct uri name => ?_⟩
  · -- The children are processed when the handlers are through with the element.
    show ((handleLanguages ev walk site _ languages) >>= _).run.run s = _
    rw [run_bind, show (handleLanguages ev walk site (pendingOn languages site.element.tag)
      languages).run.run s = _ from h]
    rfl
  · -- With different namespaces at most one language waits for the attribute.
    rw [hcount, length_waitsFor_of_nodup hdistinct]
    split
    · exact Nat.mul_one _
    · exact Nat.mul_zero _

/-- Two languages of one namespace. -/
def sharingLanguages : List Language :=
  [Language.edits "urn:t" ["set"] 0, Language.edits "urn:t" ["show"] 1]

/-- An element with a directive of the second of them, and one that neither knows. -/
def sharedNote : Element where
  tag := ⟨.plain "p", [⟨⟨some ⟨some "t", "urn:t"⟩, "show"⟩, "string:x", []⟩,
    ⟨⟨some ⟨some "t", "urn:t"⟩, "other"⟩, "", []⟩], [⟨some "t", "urn:t"⟩], some 1⟩
  children := []

/-- Whether handling ends with the element in place. -/
def Progress.isOn : Progress → Bool
  | .on _ => true
  | .done _ => false

/-- A note that two languages share: each warns of what is left when it is done. -/
theorem warnings_name_left_sharedNote : ∃ here s' warnings,
    (handleLanguages .standard (processNode sharingLanguages .standard 1) ⟨sharedNote, [], []⟩
      (pendingOn sharingLanguages sharedNote.tag) sharingLanguages).Gives default (.on here) s' ∧
    (((Acts.warning .standard (processNode sharingLanguages .standard 1)).onLanguages
      ⟨sharedNote, [], []⟩ (pendingOn sharingLanguages sharedNote.tag) sharingLanguages).run
        []).Gives default (.on here, warnings) s' ∧
    (warnings.flatMap Event.named).count ("urn:t", "show") = 1 ∧
    (warnings.flatMap Event.named).count ("urn:t", "other") = 2 := by
  let handled := handleLanguages .standard (processNode sharingLanguages .standard 1)
    ⟨sharedNote, [], []⟩ (pendingOn sharingLanguages sharedNote.tag) sharingLanguages
  have hon : (handled.run.run default).1.toOption.any Progress.isOn = true := by decide +kernel
  rcases hresult : (handled.run.run default).1 with _ | here | _
  case ok.on =>
    have h : handled.Gives default (.on here) (handled.run.run default).2 := Prod.ext hresult rfl
    obtain ⟨warnings, hwarnings, -, -, hcount, -⟩ := warnings_name_left h
    refine ⟨here, _, warnings, h, hwarnings, ?_, ?_⟩
    · rw [hcount]
      decide +kernel
    · rw [hcount]
      decide +kernel
  all_goals
    rw [hresult] at hon
    cases hon

/-- A template with a directive that the second language of its namespace knows. -/
def sharingTemplate : Template where
  source := some (.text "<r xmlns:t=\"urn:t\" t:show=\"string:x\"/>")
  languages := sharingLanguages
  evaluator := .standard

/-- A warning says that a directive is unhandled, which is handled next. -/
theorem warned_then_handled :
    (sharingLanguages.any fun l => l.uri == "urn:t" && l.tags.contains "show") = true ∧
    (sharingTemplate.process (.map [])).1.toOption.isSome = true ∧
    (sharingTemplate.process (.map [])).2
      = [.unhandled ["show"] "urn:t" "r" (some 1), .directive "urn:t" "show" "string:x" "r" (some 1),
        .recorded 1 "show" "r" "string:x"] := by
  decide +kernel

end AttrTemplates
