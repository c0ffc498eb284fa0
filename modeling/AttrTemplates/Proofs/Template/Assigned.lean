import AttrTemplates.Proofs.Expr.Scanned
import AttrTemplates.Proofs.Template.Prefixes
import AttrTemplates.Proofs.Xml.Fresh

/-!
# `AttrTemplates.Proofs.Template.Assigned`: assignments to attributes

The directive `attributes` makes its assignments one after the other on the same element. What an
assignment does to the attributes is an update: it gives a key a value, in the old place or at the
end, or it takes the key away. Updates are pure, so what a list of them leads to is told for lists
of keys and values first.

* `lookup_updates`: the last update of a key decides;
* `updates_eq_of_nodup`: if no key is updated twice, what was there keeps its order and what is new
  stands behind it. So the order of the updates hardly matters (`updates_perm`).

The value of an assignment depends on the contexts alone, and no assignment changes them. The
attribute that it names depends on the prefixes that are declared. An assignment may declare a
prefix, but only one that meant nothing (`Assignment.read?_after`). So a run makes the updates
that its assignments stand for where it begins: `assignAttributes_updates` and its converse
`exists_assignAttributes`. `attributes_assigned` is the result for the directive.
-/

set_option autoImplicit false

namespace AttrTemplates

namespace Xml

/-! ### Updates -/

/-- The keys of a tag's attributes with their values, in order. -/
def Tag.values (t : Tag) : List (String × String) :=
  t.attributes.map fun a => (a.name.clark, a.value)

/-- The keys of a tag's attributes in order. -/
def Tag.keys (t : Tag) : List String := t.attributes.map fun a => a.name.clark

/-- Keys with values in which a key has been given a value, or has been taken away. -/
def updated (vs : List (String × String)) (key : String) : Option String → List (String × String)
  | none => vs.filter fun v => v.1 != key
  | some text =>
    if (vs.lookup key).isSome then vs.map fun v => if v.1 == key then (key, text) else v
    else vs ++ [(key, text)]

/-- Keys with values after updates, made one after the other. -/
def updates (vs : List (String × String)) (us : List (String × Option String)) :
    List (String × String) :=
  us.foldl (fun vs u => updated vs u.1 u.2) vs

/-- An attribute of a tag is looked up among its values. -/
theorem Tag.attribute?_eq_lookup (t : Tag) (key : String) :
    t.attribute? key = t.values.lookup key := by
  unfold attribute? values
  induction t.attributes with
  | nil => rfl
  | cons a as ih =>
    rw [List.find?_cons, List.map_cons, List.lookup_cons, ← ih, BEq.comm]
    cases key == a.name.clark <;> rfl

/-- The keys of a tag are those of its values. -/
theorem Tag.keys_eq_map (t : Tag) : t.keys = t.values.map Prod.fst := by
  unfold keys values
  rw [List.map_map]
  rfl

/-- The values without an attribute are those without its key. -/
theorem Tag.values_withoutAttribute (t : Tag) (key : String) :
    (t.withoutAttribute key).values = updated t.values key none := by
  unfold withoutAttribute values updated
  rw [List.filter_map]
  rfl

/-- The values with an attribute are those with its key set. -/
theorem Tag.values_withAttribute (t : Tag) (name : Name) (value : String) :
    (t.withAttribute name value).values = updated t.values name.clark (some value) := by
  -- An attribute is replaced if there is one of its key, and otherwise added.
  have hany : (t.values.lookup name.clark).isSome
      = t.attributes.any fun a => a.name.clark == name.clark := by
    rw [← Tag.attribute?_eq_lookup, attribute?, Option.isSome_map, Bool.eq_iff_iff,
      List.find?_isSome, List.any_eq_true]
  simp only [withAttribute, updated, hany]
  split
  · unfold values
    rw [List.map_map, List.map_map]
    refine List.map_congr_left fun a _ => ?_
    simp only [Function.comp_apply]
    split <;> rfl
  · unfold values
    rw [List.map_append]
    rfl

/-- Attributes of other keys stay what they are, with the spelling of their values. -/
theorem Tag.filter_withAttribute (t : Tag) {name : Name} {p : Attribute → Bool}
    (hp : ∀ a : Attribute, a.name.clark = name.clark → p a = false) (value : String) :
    (t.withAttribute name value).attributes.filter p = t.attributes.filter p := by
  have hset : p { name, value } = false := hp _ rfl
  unfold withAttribute
  split
  · dsimp only
    induction t.attributes with
    | nil => rfl
    | cons a as ih =>
      rw [List.map_cons]
      -- The one that is replaced is let pass neither before nor afterwards.
      by_cases ha : a.name.clark = name.clark
      · rw [if_pos (beq_iff_eq.mpr ha), List.filter_cons_of_neg (by simp [hset]),
          List.filter_cons_of_neg (by simp [hp a ha]), ih]
      · rw [if_neg (mt beq_iff_eq.mp ha), List.filter_cons, List.filter_cons, ih]
  · rw [List.filter_append, List.filter_cons_of_neg (by simp [hset])]
    exact List.append_nil _

/-- Attributes of other keys stay when one is taken off. -/
theorem Tag.filter_withoutAttribute (t : Tag) {key : String} {p : Attribute → Bool}
    (hp : ∀ a : Attribute, a.name.clark = key → p a = false) :
    (t.withoutAttribute key).attributes.filter p = t.attributes.filter p := by
  unfold withoutAttribute
  rw [List.filter_filter]
  refine List.filter_congr fun a _ => ?_
  by_cases ha : a.name.clark = key
  · rw [hp a ha, Bool.false_and]
  · rw [bne_iff_ne.mpr ha, Bool.and_true]

/-! ### What updates lead to -/

section

variable {vs : List (String × String)} {us : List (String × Option String)}

/-- The value of a key when another value is put in the place of one that is there. -/
theorem lookup_replaced (vs : List (String × String)) (key text k : String) :
    (vs.map fun v => if v.1 == key then (key, text) else v).lookup k
      = if k = key then (vs.lookup key).map fun _ => text else vs.lookup k := by
  induction vs with
  | nil => simp
  | cons v vs ih =>
    obtain ⟨key', text'⟩ := v
    simp only [beq_iff_eq] at ih
    simp only [List.map_cons, beq_iff_eq]
    -- Only entries under the key itself are changed, so the cases are whether one is met here.
    by_cases hkey : key' = key
    · subst hkey
      by_cases hk : k = key'
      · simp [hk]
      · simp [hk, ih, List.lookup_cons, beq_eq_false_iff_ne.mpr hk]
    · rw [if_neg hkey, List.lookup_cons, List.lookup_cons, List.lookup_cons, ih]
      by_cases hk : k = key
      · simp [hk, beq_eq_false_iff_ne.mpr (Ne.symm hkey)]
      · simp [hk]

/-- The value of a key after an update. -/
theorem lookup_updated (vs : List (String × String)) (key : String) (text? : Option String)
    (k : String) :
    (updated vs key text?).lookup k = if k = key then text? else vs.lookup k := by
  cases text? with
  | none => exact lookup_filter_ne vs key k
  | some text =>
    simp only [updated]
    cases hkey : vs.lookup key with
    | some _ =>
      rw [Option.isSome_some, if_pos rfl, lookup_replaced, hkey]
      rfl
    | none =>
      rw [Option.isSome_none, if_neg Bool.false_ne_true, List.lookup_append, List.lookup_cons]
      by_cases hk : k = key
      · simp [hk, hkey]
      · simp [hk, beq_eq_false_iff_ne.mpr hk]

/-- The last update of a key decides about it. -/
theorem lookup_updates (vs : List (String × String)) (us : List (String × Option String))
    (k : String) :
    (updates vs us).lookup k = (us.reverse.lookup k).getD (vs.lookup k) := by
  induction us generalizing vs with
  | nil => rfl
  | cons u us ih =>
    obtain ⟨key, text?⟩ := u
    show (updates (updated vs key text?) us).lookup k = _
    rw [ih, lookup_updated, List.reverse_cons, List.lookup_append, List.lookup_cons]
    cases us.reverse.lookup k with
    | some _ => rfl
    | none =>
      by_cases hk : k = key
      · simp [hk]
      · simp [hk, beq_eq_false_iff_ne.mpr hk]

/-- What becomes of a key that was there, with its value. -/
def keptBy (us : List (String × Option String)) (v : String × String) : Option (String × String) :=
  match us.lookup v.1 with
  | none => some v
  | some text? => text?.map (v.1, ·)

/-- What an update adds. -/
def addedTo (vs : List (String × String)) (u : String × Option String) :
    Option (String × String) :=
  if (vs.lookup u.1).isSome then none else u.2.map (u.1, ·)

/-- Without updates everything is kept. -/
theorem keptBy_nil : keptBy [] = some := rfl

/-- The first update decides about its own key if no other updates that. -/
theorem filterMap_keptBy_updated {key : String} (text? : Option String)
    (hmissing : us.lookup key = none) :
    (updated vs key text?).filterMap (keptBy us)
      = vs.filterMap (keptBy ((key, text?) :: us))
        ++ (addedTo vs (key, text?)).toList := by
  have hother : ∀ v : String × String, v.1 ≠ key →
      keptBy ((key, text?) :: us) v = keptBy us v := by
    intro v hv
    simp only [keptBy, List.lookup_cons, beq_eq_false_iff_ne.mpr hv]
  have hown : ∀ v : String × String, v.1 = key →
      keptBy ((key, text?) :: us) v = text?.map (key, ·) := by
    rintro v rfl
    simp only [keptBy, List.lookup_cons, beq_self_eq_true]
  -- An attribute is removed, set in its place, or added at the end.
  cases text? with
  | none =>
    have hnone : addedTo vs (key, none) = none := by simp [addedTo]
    rw [hnone, Option.toList_none, List.append_nil, updated, List.filterMap_filter]
    refine List.filterMap_congr fun v _ => ?_
    by_cases hv : v.1 = key
    · simp [hv, hown v hv]
    · simp [hv, hother v hv]
  | some text =>
    have hset : keptBy us (key, text) = some (key, text) := by simp [keptBy, hmissing]
    cases hkey : vs.lookup key with
    | some _ =>
      have hnone : addedTo vs (key, some text) = none := by simp [addedTo, hkey]
      rw [hnone, Option.toList_none, List.append_nil]
      simp only [updated, hkey, Option.isSome_some, if_true, List.filterMap_map]
      refine List.filterMap_congr fun v _ => ?_
      by_cases hv : v.1 = key
      · simp [hv, hown v hv, hset]
      · simp [hv, hother v hv]
    | none =>
      have hadded : addedTo vs (key, some text) = some (key, text) := by simp [addedTo, hkey]
      simp only [updated, hkey, hadded, Option.isSome_none, Bool.false_eq_true, if_false,
        List.filterMap_append, List.filterMap_cons, hset, List.filterMap_nil, Option.toList_some]
      refine congrArg (· ++ _) (List.filterMap_congr fun v hv => (hother v fun h => ?_).symm)
      have hne := List.lookup_eq_none_iff.mp hkey v hv
      simp [h] at hne

/-- Updates of different keys: what was there is kept in its order, with new values or without
what was taken away, and what is new stands behind it. -/
theorem updates_eq_of_nodup (hus : (us.map Prod.fst).Nodup) :
    updates vs us = vs.filterMap (keptBy us) ++ us.filterMap (addedTo vs) := by
  induction us generalizing vs with
  | nil => simp [updates, keptBy_nil]
  | cons u us ih =>
    obtain ⟨key, text?⟩ := u
    obtain ⟨hkey, hus⟩ := List.nodup_cons.mp hus
    have hother : ∀ u ∈ us, u.1 ≠ key := fun u hu h =>
      hkey (List.mem_map.mpr ⟨u, hu, h⟩)
    have hmissing : us.lookup key = none := by
      rw [List.lookup_eq_none_iff]
      intro u hu
      simpa [bne_iff_ne, ne_comm] using hother u hu
    -- Nothing that comes later is added for this key, and for the others nothing has changed.
    have hadded : us.filterMap (addedTo (updated vs key text?)) = us.filterMap (addedTo vs) := by
      refine List.filterMap_congr fun u hu => ?_
      simp only [addedTo, lookup_updated, if_neg (hother u hu)]
    have hcons : ((key, text?) :: us).filterMap (addedTo vs)
        = (addedTo vs (key, text?)).toList ++ us.filterMap (addedTo vs) := by
      rw [List.filterMap_cons]
      cases addedTo vs (key, text?) <;> rfl
    calc updates vs ((key, text?) :: us)
        = updates (updated vs key text?) us := rfl
      _ = (updated vs key text?).filterMap (keptBy us)
            ++ us.filterMap (addedTo (updated vs key text?)) := ih hus
      _ = (vs.filterMap (keptBy ((key, text?) :: us)) ++ (addedTo vs (key, text?)).toList)
            ++ us.filterMap (addedTo vs) := by rw [filterMap_keptBy_updated text? hmissing, hadded]
      _ = vs.filterMap (keptBy ((key, text?) :: us))
            ++ ((key, text?) :: us).filterMap (addedTo vs) := by rw [List.append_assoc, hcons]

/-- The order of updates of different keys makes no difference but to the order of what is new. -/
theorem updates_perm {us' : List (String × Option String)} (h : us.Perm us')
    (hus : (us.map Prod.fst).Nodup) : (updates vs us).Perm (updates vs us') := by
  have hkept : keptBy us = keptBy us' := by
    funext v
    unfold keptBy
    rw [lookup_of_perm h hus]
  rw [updates_eq_of_nodup hus, updates_eq_of_nodup ((h.map Prod.fst).nodup_iff.mp hus), hkept]
  exact (h.filterMap _).append_left _

/-- What is there after updates of different keys and was there before is in its old order, in front
of what is new. -/
theorem keys_updates (vs : List (String × String)) (hus : (us.map Prod.fst).Nodup) :
    ∃ new, (updates vs us).map Prod.fst
        = (vs.map Prod.fst).filter (fun k => ((updates vs us).lookup k).isSome) ++ new ∧
      ∀ k ∈ new, k ∉ vs.map Prod.fst := by
  -- What an update keeps of an attribute depends on its key alone, and so the keys that stay are a
  -- filter of those that were there.
  have hkept : ∀ v ∈ vs, (keptBy us v).map Prod.fst
      = if ((updates vs us).lookup v.1).isSome then some v.1 else none := by
    intro v hv
    have hthere : (vs.lookup v.1).isSome = true := by
      cases hlookup : vs.lookup v.1 with
      | some _ => rfl
      | none => simpa using List.lookup_eq_none_iff.mp hlookup v hv
    rw [lookup_updates, ← lookup_of_perm us.reverse_perm.symm hus, keptBy]
    cases us.lookup v.1 with
    | none => simp [hthere]
    | some text? => cases text? <;> rfl
  refine ⟨(us.filterMap (addedTo vs)).map Prod.fst, ?_, fun k hk => ?_⟩
  · have hfilter : ∀ p : String → Bool, (vs.map Prod.fst).filter p
        = vs.filterMap fun v => if p v.1 then some v.1 else none := by
      intro p
      rw [← List.filterMap_eq_filter, List.filterMap_map]
      rfl
    rw [hfilter, ← List.filterMap_congr hkept, ← List.map_filterMap, ← List.map_append,
      ← updates_eq_of_nodup hus]
  · obtain ⟨v, hv, rfl⟩ := List.mem_map.mp hk
    obtain ⟨u, -, hadded⟩ := List.mem_filterMap.mp hv
    unfold addedTo at hadded
    split at hadded
    · cases hadded
    · rename_i hmissing
      obtain ⟨text, -, rfl⟩ := Option.map_eq_some_iff.mp hadded
      intro hmem
      obtain ⟨v, hv, hkey⟩ := List.mem_map.mp hmem
      rw [Option.not_isSome_iff_eq_none, List.lookup_eq_none_iff] at hmissing
      simpa [hkey] using hmissing v hv

end

end Xml

open Xml Run

/-! ### One assignment -/

/-- An assignment with the name of the attribute looked up. -/
structure Assignment where
  /-- The namespace and the local part. -/
  target : Option String × String
  expression : String
  deriving DecidableEq, Repr

namespace Assignment

/-- Reads an assignment, whose name is looked up in a scope. -/
def read? (scope : Scope) (argument : String) : Option Assignment :=
  (NamedExpression.parse? isAttributeChar argument).bind fun a =>
    (attributeTarget scope a.name).toOption.map fun target => ⟨target, a.expression⟩

/-- The key of the attribute that is assigned. -/
def key (a : Assignment) : String :=
  match a.target.1 with
  | some uri => attributeKey uri a.target.2
  | none => a.target.2

/-- The text that the attribute gets in some contexts, or none if it goes; nothing if the assignment
cannot be made. -/
def text? (ev : Expr.Evaluator) (locals globals : Entries) (a : Assignment) :
    Option (Option String) :=
  match (ev.valueIn locals globals a.expression).1 with
  | .error _ => none
  | .ok v =>
    if v.isUndefined then if a.target.2.isEmpty then none else some none
    else match v.written with
      | .error _ => none
      | .ok text =>
        if isLocalName a.target.2 && (checkText text).isOk then some (some text) else none

/-- The update that an assignment stands for. -/
def update? (ev : Expr.Evaluator) (locals globals : Entries) (a : Assignment) :
    Option (String × Option String) :=
  (a.text? ev locals globals).map fun text? => (a.key, text?)

/-- The tag of an element after an assignment, and the number of prefixes made up. -/
def assigning (site : Site) (a : Assignment) (text? : Option String) (made : Prefixes) :
    Tag × Prefixes :=
  match text? with
  | some text => taggedWith site a.target text made
  | none => (site.element.tag.withoutAttribute a.key, made)

/-- A site whose element has a tag after an assignment. -/
def after (site : Site) (a : Assignment) (text? : Option String) (made : Prefixes) : Site :=
  { site with element := { site.element with tag := (assigning site a text? made).1 } }

/-- The state after an assignment: its value may have left notes, and its name a prefix. -/
def stateAfter (ev : Expr.Evaluator) (site : Site) (a : Assignment) (text? : Option String)
    (s : RunState) : RunState :=
  { s.noting (ev.valueIn site.locals s.globals a.expression).2 with
    made := (assigning site a text? s.made).2 }

variable {ev : Expr.Evaluator} {site : Site} {a : Assignment} {made : Prefixes}
  {s s' : RunState} {e : Element}

/-- An argument is read as an assignment if it parses and its name has a target. -/
theorem read?_eq_some_iff {scope : Scope} {argument : String} :
    read? scope argument = some a ↔ ∃ name, NamedExpression.parse? isAttributeChar argument
      = some ⟨name, a.expression⟩ ∧ attributeTarget scope name = .ok a.target := by
  unfold read?
  rw [Option.bind_eq_some_iff]
  constructor
  · -- A name without target makes no assignment, although the argument parses.
    rintro ⟨⟨name, expression⟩, hparse, h⟩
    obtain ⟨target, htarget, rfl⟩ := Option.map_eq_some_iff.mp h
    refine ⟨name, hparse, ?_⟩
    cases hname : attributeTarget scope name with
    | error f =>
      rw [hname] at htarget
      cases htarget
    | ok found =>
      rw [hname] at htarget
      cases htarget
      rfl
  · rintro ⟨name, hparse, htarget⟩
    refine ⟨_, hparse, ?_⟩
    rw [htarget]
    rfl

/-- An assignment that gives a text, or takes the attribute away, has a value that says so. -/
theorem text?_eq_some_iff {locals globals : Entries} {text? : Option String} :
    a.text? ev locals globals = some text? ↔ ∃ v,
      (ev.valueIn locals globals a.expression).1 = .ok v ∧
        if v.isUndefined then a.target.2.isEmpty = false ∧ text? = none
        else ∃ text, v.written = .ok text ∧ isLocalName a.target.2 = true ∧
          checkText text = .ok () ∧ text? = some text := by
  unfold Assignment.text?
  cases (ev.valueIn locals globals a.expression).1 with
  | error f => simp
  | ok v =>
    cases hundefined : v.isUndefined with
    | true => cases hname : a.target.2.isEmpty <;> simp [hundefined, @eq_comm _ none]
    | false =>
      cases hwritten : v.written with
      | error f => simp [hundefined, hwritten]
      | ok text =>
        cases hcheck : checkText text with
        | error f => simp [hundefined, hwritten, hcheck, Except.isOk, Except.toBool]
        | ok u => simp [hundefined, hwritten, hcheck, Except.isOk, Except.toBool, @eq_comm _ (some text)]

/-- An assignment in a list is made if it can be, and then the others. -/
theorem cons_gives_iff {argument : String} {arguments : List String}
    (hread : read? site.innerScope argument = some a) :
    (assignAttributes ev site (argument :: arguments)).Gives s e s' ↔ ∃ text?,
      a.text? ev site.locals s.globals = some text? ∧
        (assignAttributes ev (after site a text? s.made) arguments).Gives
          (stateAfter ev site a text? s) e s' := by
  obtain ⟨name, hparse, htarget⟩ := read?_eq_some_iff.mp hread
  simp only [assignAttributes_cons_gives_iff, text?_eq_some_iff, evaluateIn_gives_iff]
  constructor
  · rintro ⟨a', target, v, _, here, s₂, hparse', htarget', ⟨notes, hv, rfl⟩, hassign, hrest⟩
    -- The reading of the argument is the one that is given, so it names the same target.
    obtain rfl := Option.some.inj (hparse.symm.trans hparse')
    obtain rfl := Except.ok.inj (htarget.symm.trans htarget')
    cases hundefined : v.isUndefined with
    | true =>
      rw [hundefined] at hassign
      obtain ⟨hremove, rfl⟩ := hassign
      obtain ⟨hname, rfl⟩ := removeAttribute_eq_ok_iff.mp hremove
      refine ⟨none, ⟨v, by rw [hv], by rw [hundefined]; exact ⟨hname, rfl⟩⟩, ?_⟩
      unfold stateAfter
      rw [hv]
      exact hrest
    | false =>
      rw [hundefined] at hassign
      obtain ⟨text, htext, hset⟩ := hassign
      obtain ⟨hname, hcheck, rfl, rfl⟩ := setAttribute_gives_iff.mp hset
      refine ⟨some text, ⟨v, by rw [hv], ?_⟩, ?_⟩
      · rw [hundefined]
        exact ⟨text, htext, hname, hcheck, rfl⟩
      · unfold stateAfter
        rw [hv]
        exact hrest
  · rintro ⟨text?, ⟨v, hv, htext⟩, hrest⟩
    refine ⟨⟨name, a.expression⟩, a.target, v, _, _, stateAfter ev site a text? s, hparse, htarget,
      ⟨_, Prod.ext hv rfl, rfl⟩, ?_, hrest⟩
    cases hundefined : v.isUndefined with
    | true =>
      rw [hundefined] at htext
      obtain ⟨hname, rfl⟩ := htext
      exact ⟨removeAttribute_eq_ok_iff.mpr ⟨hname, rfl⟩, rfl⟩
    | false =>
      rw [hundefined] at htext
      obtain ⟨text, htext, hname, hcheck, rfl⟩ := htext
      exact ⟨text, htext, setAttribute_gives_iff.mpr ⟨hname, hcheck, rfl, rfl⟩⟩

/-- An attribute is set under a name with its key, on a tag that has the old declarations and maybe
one of a prefix that meant nothing. -/
theorem taggedWith_eq (site : Site) (a : Assignment) (text : String) (made : Prefixes) :
    ∃ declarations name,
    (taggedWith site a.target text made).1
        = ({ site.element.tag with declarations } : Tag).withAttribute name text ∧
      name.clark = a.key ∧
      ∀ p uri, Scope.uri? site.innerScope p = some uri →
        Scope.uri? (({ site.element.tag with declarations } : Tag).frame :: site.scope) p
          = some uri := by
  obtain ⟨⟨uri?, localName⟩, expression⟩ := a
  have hkey : ∀ b : Binding, uri? = some b.uri →
      Name.clark ⟨some b, localName⟩ = key ⟨(uri?, localName), expression⟩ := by
    rintro b rfl
    rfl
  unfold taggedWith
  cases uri? with
  | none => exact ⟨site.element.tag.declarations, .plain localName, rfl, rfl, fun _ _ h => h⟩
  | some uri =>
    dsimp only
    -- A binding in scope names the attribute, or a new one is declared for it. The prefix of the
    -- new one meant nothing, so no other prefix loses its meaning.
    cases hb : site.innerScope.bindingFor? uri true with
    | some b =>
      refine ⟨site.element.tag.declarations, ⟨some b, localName⟩, rfl, hkey b ?_, fun _ _ h => h⟩
      rw [Scope.bindingFor?_uri hb]
    | none =>
      obtain ⟨p, hbinding, hfree⟩ := newBinding_isFree site.innerScope uri made
      refine ⟨site.element.tag.declarations ++ [⟨some p, uri⟩], ⟨some ⟨some p, uri⟩, localName⟩, ?_,
        hkey _ rfl, fun _ _ h => Scope.uri?_declaring (b := ⟨some p, uri⟩) hfree h⟩
      dsimp only
      rw [hbinding]

/-- Prefixes that mean something before an assignment mean the same afterwards. -/
theorem uri?_after {text? : Option String} {p : Option String} {uri : String}
    (h : site.innerScope.uri? p = some uri) :
    (after site a text? made).innerScope.uri? p = some uri := by
  cases text? with
  | none => exact h
  | some text =>
    obtain ⟨declarations, name, htag, -, huri⟩ := taggedWith_eq site a text made
    unfold after assigning Site.innerScope
    dsimp only
    rw [htag, Tag.frame_withAttribute]
    exact huri p uri h

/-- A prefix means after an assignment what it meant before. -/
theorem meaning?_after {text? : Option String} {p uri : String}
    (h : site.innerScope.meaning? p = some uri) :
    (after site a text? made).innerScope.meaning? p = some uri := by
  unfold Scope.meaning? at h ⊢
  split
  · rename_i hxml
    rwa [if_pos hxml] at h
  · rename_i hxml
    rw [if_neg hxml] at h
    exact uri?_after h

/-- So what is assigned to can be looked up before any assignment is made. -/
theorem read?_after {argument : String} {b : Assignment} {text? : Option String}
    (h : read? site.innerScope argument = some b) :
    read? (after site a text? made).innerScope argument = some b := by
  obtain ⟨name, hparse, htarget⟩ := read?_eq_some_iff.mp h
  refine read?_eq_some_iff.mpr ⟨name, hparse, attributeTarget_eq_ok_iff.mpr ?_⟩
  rcases attributeTarget_eq_ok_iff.mp htarget with hplain | ⟨p, uri, hname, huri, htarget⟩
  · exact .inl hplain
  · exact .inr ⟨p, uri, hname, meaning?_after huri, htarget⟩

end Assignment

/-! ### All assignments of an element -/

/-- An element is another one with updates made to its attributes. -/
structure Xml.Element.Updates (e : Element) (us : List (String × Option String)) (e' : Element) :
    Prop where
  children : e'.children = e.children
  name : e'.tag.name = e.tag.name
  values : e'.tag.values = updates e.tag.values us
  /-- Attributes with other keys are the same, with the spelling of their values. -/
  others : ∀ p : Attribute → Bool, (∀ u ∈ us, ∀ r : Attribute, r.name.clark = u.1 → p r = false) →
    e'.tag.attributes.filter p = e.tag.attributes.filter p

namespace Xml.Element.Updates

variable {e e' e'' : Element}

/-- Without updates nothing has changed. -/
theorem nil : e.Updates [] e := ⟨rfl, rfl, rfl, fun _ _ => rfl⟩

/-- Updates follow one another. -/
theorem cons {u : String × Option String} {us : List (String × Option String)}
    (h : e.Updates [u] e') (hs : e'.Updates us e'') : e.Updates (u :: us) e'' where
  children := hs.children.trans h.children
  name := hs.name.trans h.name
  values := by
    rw [hs.values, h.values]
    rfl
  others p hp := by
    rw [hs.others p fun v hv => hp v (List.mem_cons_of_mem _ hv),
      h.others p fun v hv => hp v (List.mem_cons.mpr (.inl (List.mem_singleton.mp hv)))]

end Xml.Element.Updates

/-- An assignment makes its update. -/
theorem Assignment.updates_after (site : Site) (a : Assignment) (text? : Option String)
    (made : Prefixes) :
    site.element.Updates [(a.key, text?)] (after site a text? made).element := by
  cases text? with
  | none =>
    refine ⟨rfl, rfl, Tag.values_withoutAttribute _ _, fun p hp => ?_⟩
    exact Tag.filter_withoutAttribute _ (hp _ List.mem_cons_self)
  | some text =>
    obtain ⟨declarations, name, htag, hkey, -⟩ := taggedWith_eq site a text made
    have hafter : (after site a (some text) made).element.tag
        = ({ site.element.tag with declarations } : Tag).withAttribute name text := htag
    refine ⟨rfl, ?_, ?_, fun p hp => ?_⟩
    · rw [hafter, Tag.name_withAttribute]
    · rw [hafter, Tag.values_withAttribute, hkey]
      rfl
    · rw [hafter, Tag.filter_withAttribute _ (fun r hr => hp _ List.mem_cons_self r (hr.trans hkey))]

section

variable {ev : Expr.Evaluator} {site : Site} {s s' : RunState} {e : Element}
  {arguments : List String}

/-- The assignments in a list of arguments, with the names looked up in a scope. -/
def assignments (scope : Scope) (arguments : List String) : List Assignment :=
  arguments.filterMap (Assignment.read? scope)

/-- The assignments of arguments begin with that of the first one that can be read. -/
theorem assignments_cons {scope : Scope} {argument : String} {a : Assignment}
    (h : Assignment.read? scope argument = some a) :
    assignments scope (argument :: arguments) = a :: assignments scope arguments :=
  List.filterMap_cons_some h

/-- What is assigned to is the same after an assignment. -/
theorem assignments_after (a : Assignment) (text? : Option String) (made : Prefixes)
    (hread : ∀ argument ∈ arguments, (Assignment.read? site.innerScope argument).isSome) :
    (∀ argument ∈ arguments,
      (Assignment.read? (a.after site text? made).innerScope argument).isSome) ∧
    assignments (a.after site text? made).innerScope arguments
      = assignments site.innerScope arguments := by
  have hsame : ∀ argument ∈ arguments,
      Assignment.read? (a.after site text? made).innerScope argument
        = Assignment.read? site.innerScope argument := by
    intro argument hmem
    obtain ⟨b, hb⟩ := Option.isSome_iff_exists.mp (hread argument hmem)
    rw [hb, Assignment.read?_after hb]
  exact ⟨fun argument hmem => (hsame argument hmem).symm ▸ hread argument hmem,
    List.filterMap_congr hsame⟩

/-- Assignments that succeed make the updates that they stand for, each with the value that its
expression has where the first one is made. -/
theorem assignAttributes_updates
    (hread : ∀ argument ∈ arguments, (Assignment.read? site.innerScope argument).isSome)
    (h : (assignAttributes ev site arguments).Gives s e s') :
    ∃ us, (assignments site.innerScope arguments).map (·.update? ev site.locals s.globals)
        = us.map some ∧
      site.element.Updates us e ∧ s'.globals = s.globals := by
  induction arguments generalizing site s with
  | nil =>
    obtain ⟨rfl, rfl⟩ := assignAttributes_nil_gives_iff.mp h
    exact ⟨[], rfl, .nil, rfl⟩
  | cons argument arguments ih =>
    obtain ⟨a, ha⟩ := Option.isSome_iff_exists.mp (hread argument List.mem_cons_self)
    have hrest := fun other hmem => hread other (List.mem_cons_of_mem argument hmem)
    obtain ⟨text?, htext, hmade⟩ := (Assignment.cons_gives_iff ha).mp h
    -- Setting the first attribute does not change how the other arguments are read.
    obtain ⟨hreads, hsame⟩ := assignments_after a text? s.made hrest
    obtain ⟨us, hus, hupdates, hglobals⟩ := ih hreads hmade
    refine ⟨(a.key, text?) :: us, ?_, (a.updates_after site text? s.made).cons hupdates, hglobals⟩
    rw [hsame] at hus
    rw [assignments_cons ha, List.map_cons, List.map_cons, Assignment.update?, htext]
    exact congrArg (_ :: ·) hus

/-- Assignments succeed if each of them can be made where the first one is. -/
theorem exists_assignAttributes
    (hread : ∀ argument ∈ arguments, (Assignment.read? site.innerScope argument).isSome)
    (hmade : ∀ a ∈ assignments site.innerScope arguments,
      (a.update? ev site.locals s.globals).isSome) :
    ∃ e s', (assignAttributes ev site arguments).Gives s e s' := by
  induction arguments generalizing site s with
  | nil => exact ⟨site.element, s, assignAttributes_nil_gives_iff.mpr ⟨rfl, rfl⟩⟩
  | cons argument arguments ih =>
    obtain ⟨a, ha⟩ := Option.isSome_iff_exists.mp (hread argument List.mem_cons_self)
    have hrest := fun other hmem => hread other (List.mem_cons_of_mem argument hmem)
    rw [assignments_cons ha] at hmade
    obtain ⟨u, hu⟩ := Option.isSome_iff_exists.mp (hmade a List.mem_cons_self)
    obtain ⟨text?, htext, rfl⟩ := Option.map_eq_some_iff.mp hu
    obtain ⟨hreads, hsame⟩ := assignments_after a text? s.made hrest
    obtain ⟨e, s', h⟩ := ih (s := a.stateAfter ev site text? s) hreads
      (fun b hb => hmade b (List.mem_cons_of_mem a (hsame ▸ hb)))
    exact ⟨e, s', (Assignment.cons_gives_iff ha).mpr ⟨text?, htext, h⟩⟩

/-! ### The directive -/

variable {as : List Assignment} {us : List (String × Option String)} {locals globals : Entries}

/-- The updates that assignments stand for have their keys. -/
theorem map_fst_of_updates (h : as.map (·.update? ev locals globals) = us.map some) :
    us.map Prod.fst = as.map Assignment.key := by
  induction as generalizing us with
  | nil =>
    rw [List.map_nil, eq_comm, List.map_eq_nil_iff] at h
    rw [h]
    rfl
  | cons a as ih =>
    cases us with
    | nil => cases h
    | cons u us =>
      obtain ⟨hu, hus⟩ := List.cons.inj h
      obtain ⟨text?, -, rfl⟩ := Option.map_eq_some_iff.mp hu
      rw [List.map_cons, List.map_cons, ih hus]

/-- The last assignment to an attribute decides about it. -/
theorem lookup_of_updates {front behind : List Assignment} {a : Assignment}
    (h : (front ++ a :: behind).map (·.update? ev locals globals) = us.map some)
    (hlast : ∀ b ∈ behind, b.key ≠ a.key) : ∃ text?,
      a.text? ev locals globals = some text? ∧
        ∀ vs, (updates vs us).lookup a.key = text? := by
  rw [List.map_append, List.map_cons, eq_comm, List.map_eq_append_iff] at h
  obtain ⟨us₁, us₂, rfl, -, hus₂⟩ := h
  obtain ⟨u, us₃, rfl, hu, hus₃⟩ := List.map_eq_cons_iff.mp hus₂
  obtain ⟨text?, htext, rfl⟩ := Option.map_eq_some_iff.mp hu.symm
  -- Behind the last update of the key there is none, so this is the one that counts.
  have hmissing : us₃.reverse.lookup a.key = none := by
    rw [List.lookup_eq_none_iff]
    intro u hu
    have hkey : u.1 ∈ behind.map Assignment.key := by
      rw [← map_fst_of_updates hus₃.symm]
      exact List.mem_map_of_mem (List.mem_reverse.mp hu)
    obtain ⟨b, hb, hbu⟩ := List.mem_map.mp hkey
    rw [← hbu]
    simpa [bne_iff_ne, ne_comm] using hlast b hb
  refine ⟨text?, htext, fun vs => ?_⟩
  rw [lookup_updates, List.reverse_append, List.reverse_cons, List.append_assoc, List.lookup_append,
    hmissing]
  simp

/-- What a list of arguments reads as. -/
theorem assignments_of_map {scope : Scope}
    (h : arguments.map (Assignment.read? scope) = as.map some) :
    (∀ argument ∈ arguments, (Assignment.read? scope argument).isSome) ∧
      assignments scope arguments = as := by
  constructor
  · intro argument hmem
    have hread : Assignment.read? scope argument ∈ as.map some := h ▸ List.mem_map_of_mem hmem
    obtain ⟨a, -, ha⟩ := List.mem_map.mp hread
    rw [← ha]
    rfl
  · have hid := congrArg (List.filterMap id) h
    rw [List.filterMap_map, List.filterMap_map] at hid
    exact hid.trans List.filterMap_some

/-- The attributes that no assignment names. -/
def unassigned (as : List Assignment) (r : Attribute) : Bool :=
  as.all fun a => r.name.clark != a.key

/-- What `attributes` does, when each of its assignments names an attribute that can be looked up on
the element. If it succeeds, the contexts are as they were, and about each attribute that is named
the last assignment to it decides: afterwards it is the text of its expression's value, or absent if
that is undefined. All other attributes are what they were, in the same order.

If no attribute is named twice, all attributes that were there and still are have kept their order.
Then the arguments can be written in any other order, and with that `attributes` succeeds as well
and leads to the same attributes with the same values. -/
theorem attributes_assigned {raw : String} {reply : Reply}
    (hread : (Expr.arguments raw).map (Assignment.read? site.innerScope) = as.map some)
    (h : (attributes ev raw site).Gives s reply s') :
    ∃ e, reply = .stays e site.locals ∧ s'.globals = s.globals ∧
      e.tag.name = site.element.tag.name ∧ e.children = site.element.children ∧
      (∀ front a behind, as = front ++ a :: behind → (∀ b ∈ behind, b.key ≠ a.key) → ∃ v,
        (ev.valueIn site.locals s.globals a.expression).1 = .ok v ∧
          if v.isUndefined then e.tag.attribute? a.key = none
          else ∃ text, v.written = .ok text ∧ e.tag.attribute? a.key = some text) ∧
      e.tag.attributes.filter (unassigned as)
        = site.element.tag.attributes.filter (unassigned as) ∧
      ((as.map Assignment.key).Nodup →
        (∃ new, e.tag.keys
            = site.element.tag.keys.filter (fun k => (e.tag.attribute? k).isSome) ++ new ∧
          ∀ k ∈ new, k ∉ site.element.tag.keys) ∧
        ∀ arguments, arguments.Perm (Expr.arguments raw) →
          (∃ raw', Expr.arguments raw' = arguments) ∧
          ∀ raw', Expr.arguments raw' = arguments → ∃ e' t,
            (attributes ev raw' site).Gives s (.stays e' site.locals) t ∧
              t.globals = s.globals ∧ e'.tag.values.Perm e.tag.values) := by
  obtain ⟨hreads, has⟩ := assignments_of_map hread
  obtain ⟨e, hassign, rfl⟩ := attributes_gives_iff.mp h
  obtain ⟨us, hus, hupdates, hglobals⟩ := assignAttributes_updates hreads hassign
  rw [has] at hus
  have hkeys := map_fst_of_updates hus
  refine ⟨e, rfl, hglobals, hupdates.name, hupdates.children, ?last, ?others, fun hnodup => ⟨?order,
    fun arguments hperm => ⟨⟨_,
      Expr.arguments_joinArguments_of_mem (fun _ ht => hperm.subset ht)⟩, ?any⟩⟩⟩
  case last =>
    rintro front a behind rfl hlast
    obtain ⟨text?, htext, hlookup⟩ := lookup_of_updates hus hlast
    obtain ⟨v, hv, hcases⟩ := Assignment.text?_eq_some_iff.mp htext
    refine ⟨v, hv, ?_⟩
    rw [Tag.attribute?_eq_lookup, hupdates.values, hlookup]
    split at hcases
    · rename_i hundefined
      rw [if_pos hundefined]
      exact hcases.2
    · rename_i hdefined
      rw [if_neg hdefined]
      obtain ⟨text, hwritten, -, -, rfl⟩ := hcases
      exact ⟨text, hwritten, rfl⟩
  case others =>
    refine hupdates.others _ fun u hu r hr => ?_
    have hkey : u.1 ∈ as.map Assignment.key := hkeys ▸ List.mem_map_of_mem hu
    obtain ⟨a, ha, hau⟩ := List.mem_map.mp hkey
    unfold unassigned
    rw [List.all_eq_false]
    exact ⟨a, ha, by simp [hr, hau]⟩
  case order =>
    rw [← hkeys] at hnodup
    obtain ⟨new, hnew, hfresh⟩ := keys_updates site.element.tag.values hnodup
    refine ⟨new, ?_, ?_⟩
    · simp only [Tag.keys_eq_map, Tag.attribute?_eq_lookup, hupdates.values]
      exact hnew
    · rw [Tag.keys_eq_map]
      exact hfresh
  case any =>
    rintro raw' rfl
    -- The same assignments in another order stand for the same updates in that order.
    have hreads' : ∀ argument ∈ Expr.arguments raw',
        (Assignment.read? site.innerScope argument).isSome := fun argument hmem =>
      hreads argument (hperm.subset hmem)
    have hperm' : (assignments site.innerScope (Expr.arguments raw')).Perm as :=
      has ▸ hperm.filterMap _
    have hmade : ∀ a ∈ assignments site.innerScope (Expr.arguments raw'),
        (a.update? ev site.locals s.globals).isSome := by
      intro a ha
      have hmem : a.update? ev site.locals s.globals ∈ us.map some :=
        hus ▸ List.mem_map_of_mem (hperm'.subset ha)
      obtain ⟨u, -, hu⟩ := List.mem_map.mp hmem
      rw [← hu]
      rfl
    obtain ⟨e', t, hassign'⟩ := exists_assignAttributes hreads' hmade
    obtain ⟨us', hus', hupdates', hglobals'⟩ := assignAttributes_updates hreads' hassign'
    have hpermuted : us.Perm us' := by
      have hsome := (hperm'.map (·.update? ev site.locals s.globals)).filterMap id
      rw [hus, hus'] at hsome
      simpa using hsome.symm
    refine ⟨e', t, attributes_gives_iff.mpr ⟨e', hassign', rfl⟩, hglobals', ?_⟩
    rw [hupdates.values, hupdates'.values]
    exact (updates_perm hpermuted (hkeys ▸ hnodup)).symm

end

/-- A picture with a title and a link. -/
def picture : Site where
  element :=
    { tag := ⟨.plain "img", [⟨.plain "title", "old", []⟩, ⟨⟨some ⟨some "l", linkUri⟩, "to"⟩, "a", []⟩],
        [⟨some "l", linkUri⟩], some 1⟩
      children := [] }
  scope := []
  locals := []

/-- Assignments that take the title away, change the link and add two attributes, one of them under
another prefix. -/
def pictureAttributes : String := "title missing; alt string:a;;b; l:to string:c; xml:id string:d"

/-- What they read as. -/
def pictureAssignments : List Assignment :=
  [⟨(none, "title"), "missing"⟩, ⟨(none, "alt"), "string:a;b"⟩, ⟨(some linkUri, "to"), "string:c"⟩,
    ⟨(some xmlNamespace, "id"), "string:d"⟩]

/-- A picture with four assignments, in one order and in another. -/
theorem attributes_assigned_picture :
    (Expr.arguments pictureAttributes).map (Assignment.read? picture.innerScope)
        = pictureAssignments.map some ∧
      (pictureAssignments.map Assignment.key).Nodup ∧ ∃ e t,
      (attributes .standard pictureAttributes picture).Gives ⟨[], [], 0, false⟩ (.stays e []) t ∧
        e.tag.attribute? "title" = none ∧
        e.tag.attribute? (attributeKey linkUri "to") = some "c" ∧
        ∃ e' t', (attributes .standard
            "xml:id string:d; l:to string:c; alt string:a;;b; title missing" picture).Gives
              ⟨[], [], 0, false⟩ (.stays e' []) t' ∧
          e'.tag.values.Perm e.tag.values := by
  have hread : (Expr.arguments pictureAttributes).map (Assignment.read? picture.innerScope)
      = pictureAssignments.map some := by decide +kernel
  have hnodup : (pictureAssignments.map Assignment.key).Nodup := by decide +kernel
  have hsucceeds : (attributes .standard pictureAttributes picture).Succeeds ⟨[], [], 0, false⟩ := by
    decide +kernel
  obtain ⟨reply, t, h⟩ := succeeds_iff.mp hsucceeds
  obtain ⟨e, rfl, -, -, -, hlast, -, hdifferent⟩ := attributes_assigned hread h
  refine ⟨hread, hnodup, e, t, h, ?_, ?_, ?_⟩
  · obtain ⟨v, hv, hcase⟩ := hlast [] _ _ rfl (by decide +kernel)
    have hundefined : v.isUndefined = true := by
      -- Values are compared only as far as evaluation can tell: that there is one and it is
      -- undefined.
      have hnone : (Expr.Evaluator.standard.valueIn [] [] "missing").1.toOption.all
          Value.isUndefined = true := by decide +kernel
      rw [show (Expr.Evaluator.standard.valueIn [] [] "missing").1 = .ok v from hv] at hnone
      exact hnone
    rw [if_pos hundefined] at hcase
    exact hcase
  · obtain ⟨v, hv, hcase⟩ := hlast [_, _] _ _ rfl (by decide +kernel)
    have hwritten : (Expr.Evaluator.standard.valueIn [] [] "string:c").1.toOption.all
        (fun v => !v.isUndefined && v.written.toOption == some "c") = true := by decide +kernel
    rw [show (Expr.Evaluator.standard.valueIn [] [] "string:c").1 = .ok v from hv] at hwritten
    simp only [Except.toOption, Option.all_some, Bool.and_eq_true, Bool.not_eq_true',
      beq_iff_eq] at hwritten
    obtain ⟨hdefined, htext⟩ := hwritten
    rw [if_neg (by rw [hdefined]; decide)] at hcase
    obtain ⟨text, hok, hset⟩ := hcase
    rw [hok] at htext
    cases htext
    exact hset
  · obtain ⟨-, hany⟩ := (hdifferent hnodup).2 _ (List.reverse_perm _)
    obtain ⟨e', t', h', -, hperm⟩ := hany
      "xml:id string:d; l:to string:c; alt string:a;;b; title missing" (by decide +kernel)
    exact ⟨e', t', h', hperm⟩

end AttrTemplates
