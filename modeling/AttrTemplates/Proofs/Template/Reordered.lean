import AttrTemplates.Proofs.Template.Alike
import AttrTemplates.Proofs.Template.Consumed
import AttrTemplates.Proofs.Template.Matching
import AttrTemplates.Proofs.Xml.Bound

/-!
# `AttrTemplates.Proofs.Template.Reordered`: trees that differ in the places of directives

Two trees are `Reordered` if they are the same but for the places that the seven directives have
among the attributes of their element. All other attributes, those of the standard language that are
no directives among them, are in the same order.

* `Node.Reordered.standalone`: copies of such elements are such elements again. What prefixes a copy
  brings along depends on which names there are, and not on their order.
* `Site.Reordered` are two such elements at places where prefixes mean the same, on which no
  directive but `define` and `condition` has been handled.
* `Site.Matched` is what is left of that when attributes are set and removed and children replaced:
  without the directives that still wait the elements are the same, but for prefixes.
-/

set_option autoImplicit false

namespace AttrTemplates

open Xml Run

namespace Xml

/-- Whether an attribute is a certain directive of the standard language. -/
def Attribute.isFor (a : Attribute) (d : Directive) : Bool :=
  a.name.uri? == some standardUri && a.name.localName == d.tag

/-- Whether an attribute is a directive of the standard language. -/
def Attribute.isDirective (a : Attribute) : Bool :=
  a.name.uri? == some standardUri && (Directive.ofTag? a.name.localName).isSome

/-- Two tags that differ in the places of directives among the attributes. Their declarations say
the same. Were there attributes of one name, they would have to keep their order. -/
structure Tag.Reordered (t u : Tag) : Prop where
  name : t.name = u.name
  line : t.line = u.line
  declared : ∀ p, declared? t.declarations p = declared? u.declarations p
  perm : t.attributes.Perm u.attributes
  others : (t.attributes.filter fun a => !a.isDirective)
    = u.attributes.filter fun a => !a.isDirective
  each : ∀ d : Directive, (t.attributes.filter fun a => a.isFor d)
    = u.attributes.filter fun a => a.isFor d

mutual

/-- Two nodes that differ in the places of directives among the attributes of elements. -/
inductive Node.Reordered : Node → Node → Prop
  | element {t u : Tag} {ms ns : List Node} : t.Reordered u → ReorderedList ms ns →
      Node.Reordered (.element t ms) (.element u ns)
  | other {n : Node} : n.element? = none → Node.Reordered n n

/-- Nodes that differ in the places of directives among the attributes of elements. -/
inductive ReorderedList : List Node → List Node → Prop
  | nil : ReorderedList [] []
  | cons {m n : Node} {ms ns : List Node} : m.Reordered n → ReorderedList ms ns →
      ReorderedList (m :: ms) (n :: ns)

end

/-! ### Tags -/

/-- The value of a directive is that of the first attribute which is this directive. -/
theorem Tag.lookup_waiting (t : Tag) (d : Directive) :
    t.waiting.lookup d.tag
      = (t.attributes.filter fun a => a.isFor d).head?.map Attribute.value := by
  unfold waiting
  induction t.attributes with
  | nil => rfl
  | cons a as ih =>
    unfold Attribute.isFor at ih ⊢
    rw [List.filter_cons, List.filter_cons]
    cases a.name.uri? == some standardUri with
    | false => exact ih
    | true =>
      rw [Bool.true_and, if_pos rfl, List.map_cons, List.lookup_cons]
      by_cases hname : a.name.localName = d.tag
      · rw [hname, beq_self_eq_true, if_pos rfl]
        rfl
      · rw [beq_false_of_ne hname, beq_false_of_ne (Ne.symm hname), if_neg Bool.false_ne_true]
        exact ih

namespace Tag.Reordered

variable {t u : Tag}

/-- Every tag is a reordering of itself. -/
theorem refl : t.Reordered t :=
  ⟨rfl, rfl, fun _ => rfl, .refl _, rfl, fun _ => rfl⟩

/-- Where no two directives are the same one, nothing is to be said of the order of each. -/
theorem of_distinct (hname : t.name = u.name) (hline : t.line = u.line)
    (hdeclared : ∀ p, declared? t.declarations p = declared? u.declarations p)
    (hperm : t.attributes.Perm u.attributes)
    (hothers : (t.attributes.filter fun a => !a.isDirective)
      = u.attributes.filter fun a => !a.isDirective)
    (hdistinct : (t.waiting.map Prod.fst).Nodup) : t.Reordered u := by
  refine ⟨hname, hline, hdeclared, hperm, hothers, fun d => ?_⟩
  have hsame := hperm.filter fun a => a.isFor d
  have hnames : ((t.attributes.filter fun a => a.isFor d).map fun a => a.name.localName).Nodup := by
    have hsublist : (t.attributes.filter fun a => a.isFor d).Sublist
        (t.attributes.filter fun a => a.name.uri? == some standardUri) :=
      List.monotone_filter_right _ fun a ha => (Bool.and_eq_true_iff.mp ha).1
    have hwaiting : t.waiting.map Prod.fst
        = (t.attributes.filter fun a => a.name.uri? == some standardUri).map
          fun a => a.name.localName := by
      unfold Tag.waiting
      rw [List.map_map]
      rfl
    exact (hwaiting ▸ hdistinct).sublist (hsublist.map _)
  have hname : ∀ a ∈ t.attributes.filter fun a => a.isFor d, a.name.localName = d.tag := fun a ha =>
    beq_iff_eq.mp (Bool.and_eq_true_iff.mp (List.mem_filter.mp ha).2).2
  -- There is one such attribute at most.
  generalize t.attributes.filter (fun a => a.isFor d) = as at hsame hnames hname
  match as with
  | [] => exact hsame.nil_eq
  | [a] => exact (List.perm_singleton.mp hsame.symm).symm
  | a :: a' :: _ =>
    have hsecond := hname a' (List.mem_cons_of_mem _ List.mem_cons_self)
    refine ((List.nodup_cons.mp hnames).1 (List.mem_map.mpr ⟨a', List.mem_cons_self, ?_⟩)).elim
    exact hsecond.trans (hname a List.mem_cons_self).symm

variable (h : t.Reordered u)
include h

/-- A directive has the same value on both, wherever it stands. -/
theorem lookup_waiting (d : Directive) : t.waiting.lookup d.tag = u.waiting.lookup d.tag := by
  rw [Tag.lookup_waiting, Tag.lookup_waiting, h.each]

/-- What waits and is no directive of the seven comes in the same order. -/
theorem waiting_others : (t.waiting.filter fun w => (Directive.ofTag? w.1).isNone)
    = u.waiting.filter fun w => (Directive.ofTag? w.1).isNone := by
  have hwaiting : ∀ t : Tag, (t.waiting.filter fun w => (Directive.ofTag? w.1).isNone)
      = ((t.attributes.filter fun a => !a.isDirective).filter fun a =>
        a.name.uri? == some standardUri).map fun a => (a.name.localName, a.value) := by
    intro t
    unfold Tag.waiting
    rw [List.filter_map, List.filter_filter, List.filter_filter]
    refine congrArg _ (List.filter_congr fun a _ => ?_)
    rw [Function.comp_apply, Attribute.isDirective]
    cases a.name.uri? == some standardUri with
    | false => simp
    | true => simp
  rw [hwaiting, hwaiting, h.others]

/-- An attribute may be taken off both. -/
theorem withoutAttribute (key : String) :
    (t.withoutAttribute key).Reordered (u.withoutAttribute key) where
  name := h.name
  line := h.line
  declared := h.declared
  perm := h.perm.filter _
  others := by
    unfold Tag.withoutAttribute
    rw [List.filter_comm, h.others, List.filter_comm]
  each d := by
    unfold Tag.withoutAttribute
    rw [List.filter_comm, h.each, List.filter_comm]

/-- The names of a tag are bound whatever the order of its attributes. -/
theorem isBound {scope₁ scope₂ : Scope} (hscopes : ∀ p, scope₁.uri? p = scope₂.uri? p)
    (hbound : t.isBound scope₁ = true) : u.isBound scope₂ = true := by
  have huri : ∀ p, Scope.uri? (t.frame :: scope₁) p = Scope.uri? (u.frame :: scope₂) p := by
    intro p
    rw [Scope.uri?_cons, Scope.uri?_cons, hscopes]
    exact congrArg (Option.or · _) (h.declared p)
  have hnames : u.names ⊆ t.names := by
    unfold Tag.names
    rw [h.name]
    exact List.cons_subset_cons _ (h.perm.map _).symm.subset
  refine List.all_eq_true.mpr fun n hn => ?_
  rw [← funext (Scope.makes_congr huri)]
  exact List.all_eq_true.mp hbound n (hnames hn)

end Tag.Reordered

/-- Which directive an attribute is for depends on its name alone. -/
theorem Attribute.isFor_unexpanded (a : Attribute) (d : Directive) :
    a.unexpanded.isFor d = a.isFor d := by
  unfold Attribute.isFor
  rw [a.unexpanded_name]

/-- Attributes are told apart by their names, which they keep in copies. -/
theorem filter_map_unexpanded {p : Attribute → Bool} (hp : ∀ a, p a.unexpanded = p a)
    (as : List Attribute) :
    (as.map Attribute.unexpanded).filter p = (as.filter p).map Attribute.unexpanded := by
  rw [List.filter_map]
  exact congrArg _ (List.filter_congr fun a _ => hp a)

/-- Tags in copies, with declarations brought along that say the same. -/
theorem Tag.Reordered.rooting {t u : Tag} (h : t.Reordered u) {added₁ added₂ : List Binding}
    (hadded : ∀ p, declared? added₁ p = declared? added₂ p) :
    (t.rooting added₁).Reordered (u.rooting added₂) where
  name := h.name
  line := h.line
  declared p := by
    unfold Tag.rooting
    rw [declared?_append, declared?_append, h.declared, hadded]
  perm := h.perm.map _
  others := by
    have hname : ∀ a : Attribute, (!a.unexpanded.isDirective) = !a.isDirective := by
      intro a
      unfold Attribute.isDirective
      rw [a.unexpanded_name]
    unfold Tag.rooting Tag.duplicate
    rw [filter_map_unexpanded hname, filter_map_unexpanded hname, h.others]
  each d := by
    have hname := fun a : Attribute => a.isFor_unexpanded d
    unfold Tag.rooting Tag.duplicate
    rw [filter_map_unexpanded hname, filter_map_unexpanded hname, h.each]

/-- Duplicates of such tags are such tags. -/
theorem Tag.Reordered.duplicate {t u : Tag} (h : t.Reordered u) :
    t.duplicate.Reordered u.duplicate :=
  have hroot := h.rooting (fun _ => rfl : ∀ p, declared? [] p = declared? [] p)
  ⟨h.name, h.line, h.declared, hroot.perm, hroot.others, hroot.each⟩

/-! ### Trees -/

mutual

/-- Every node is a reordering of itself. -/
theorem Node.Reordered.refl : (n : Node) → n.Reordered n
  | .element _ children => .element .refl (.refl children)
  | .comment .. => .other rfl
  | .instruction .. => .other rfl
  | .reference _ => .other rfl
  | .text _ => .other rfl

/-- So is every list of nodes. -/
theorem ReorderedList.refl : (ns : List Node) → ReorderedList ns ns
  | [] => .nil
  | n :: ns => .cons (.refl n) (.refl ns)

end

mutual

/-- By recursion on the trees: names are bound in both, by scopes in which prefixes mean the same.
-/
theorem Node.Reordered.isBound {scope₁ scope₂ : Scope}
    (hscopes : ∀ p, scope₁.uri? p = scope₂.uri? p) {m n : Node} (h : m.Reordered n) (hbound : m.isBound scope₁ = true) :
    n.isBound scope₂ = true :=
  match h with
  | .element ht hns => by
    obtain ⟨htag, hchildren⟩ := Bool.and_eq_true_iff.mp hbound
    refine Bool.and_eq_true_iff.mpr ⟨ht.isBound hscopes htag, hns.areBound (fun p => ?_) hchildren⟩
    rw [Scope.uri?_cons, Scope.uri?_cons, hscopes]
    exact congrArg (Option.or · _) (ht.declared p)
  | .other hn => (Node.isBound_congr hscopes _).symm.trans hbound

/-- The same for lists of nodes. -/
theorem ReorderedList.areBound {scope₁ scope₂ : Scope}
    (hscopes : ∀ p, scope₁.uri? p = scope₂.uri? p) {ms ns : List Node} (h : ReorderedList ms ns)
    (hbound : areBound scope₁ ms = true) : Xml.areBound scope₂ ns = true :=
  match h with
  | .nil => rfl
  | .cons hn hns =>
    have ⟨hm, hms⟩ := Bool.and_eq_true_iff.mp hbound
    Bool.and_eq_true_iff.mpr ⟨hn.isBound hscopes hm, hns.areBound hscopes hms⟩

end

mutual

/-- By recursion on the trees: their duplicates are reorderings of each other. -/
theorem Node.Reordered.duplicate {m n : Node} (h : m.Reordered n) :
    m.duplicate.Reordered n.duplicate :=
  match h with
  | .element ht hns => .element ht.duplicate hns.duplicate
  | .other (n := n) hn => by
    cases n with
    | element => cases hn
    | comment | instruction | reference | text => exact .other rfl

/-- The same for lists of nodes. -/
theorem ReorderedList.duplicate {ms ns : List Node} (h : ReorderedList ms ns) :
    ReorderedList (duplicateList ms) (duplicateList ns) :=
  match h with
  | .nil => .nil
  | .cons hn hns => .cons hn.duplicate hns.duplicate

end

/-! ### Copies -/

/-- Frames that offer the same for each prefix. -/
def Scope.OfferSame (inner₁ inner₂ : Scope) : Prop :=
  ∀ p, declared? (inner₁.flatMap Frame.bindings) p = declared? (inner₂.flatMap Frame.bindings) p

/-- Scopes that offer the same bindings do so behind tags that are reorderings, as the declarations
are the same. -/
theorem Scope.OfferSame.cons {inner₁ inner₂ : Scope} (h : inner₁.OfferSame inner₂) {t u : Tag}
    (ht : t.Reordered u) : Scope.OfferSame (t.frame :: inner₁) (u.frame :: inner₂) := by
  intro p
  unfold Tag.frame
  rw [List.flatMap_cons, List.flatMap_cons, Frame.bindings, Frame.bindings]
  simp only [declared?_append]
  rw [ht.declared, ht.name, h p]

/-- The same names are missing something. -/
theorem Scope.OfferSame.lacks {inner₁ inner₂ : Scope} (h : inner₁.OfferSame inner₂) {t u : Tag}
    (ht : t.Reordered u) (p : Option String) (n : Name) :
    Scope.lacks (t.frame :: inner₁) p n = Scope.lacks (u.frame :: inner₂) p n := by
  have hnone : ∀ (t : Tag) (inner : Scope), (Scope.binding? (t.frame :: inner) p).isNone
      = ((declared? t.declarations p).or (declared? (inner.flatMap Frame.bindings) p)).isNone := by
    intro t inner
    rw [Scope.binding?_eq_find?, Scope.candidates, ← declared?_append]
    unfold declared?
    rw [Option.isNone_map]
    rfl
  unfold Scope.lacks
  rw [hnone, hnone, ht.declared, h p]

mutual

/-- Which prefixes a copy needs from outside does not depend on the order of names. -/
theorem Node.Reordered.needs {inner₁ inner₂ : Scope} (hinner : inner₁.OfferSame inner₂)
    {m n : Node} (h : m.Reordered n) (p : Option String) : m.needs inner₁ p = n.needs inner₂ p :=
  match h with
  | .element (t := t) (u := u) ht hns => by
    have hnames : t.names.Perm u.names := by
      unfold Tag.names
      rw [ht.name]
      exact (ht.perm.map _).cons _
    rw [Node.needs, Node.needs, hns.needs (hinner.cons ht) p, hnames.any_eq]
    simp only [funext (hinner.lacks ht p)]
  | .other (n := n) hn => by
    cases n with
    | element => cases hn
    | comment | instruction | reference | text => rfl

/-- Reordered nodes need the same bindings of the scope around them. -/
theorem ReorderedList.needs {inner₁ inner₂ : Scope} (hinner : inner₁.OfferSame inner₂)
    {ms ns : List Node} (h : ReorderedList ms ns) (p : Option String) :
    anyNeeds inner₁ p ms = anyNeeds inner₂ p ns :=
  match h with
  | .nil => rfl
  | .cons hn hns => by rw [anyNeeds, anyNeeds, hn.needs hinner p, hns.needs hinner p]

end

/-- The copies of two elements that are reordered are reordered. -/
theorem Node.Reordered.standalone {scope₁ scope₂ : Scope} {e₁ e₂ : Element}
    (h : e₁.toNode.Reordered e₂.toNode) (hscopes : ∀ p, scope₁.uri? p = scope₂.uri? p)
    (hbound : e₁.toNode.isBound scope₁ = true) :
    e₁.standalone.toNode.Reordered e₂.standalone.toNode := by
  obtain ⟨added₁, hcopy₁, hadded₁⟩ := e₁.standalone_of_isBound hbound
  obtain ⟨added₂, hcopy₂, hadded₂⟩ := e₂.standalone_of_isBound (h.isBound hscopes hbound)
  have hsame : ∀ p, declared? added₁ p = declared? added₂ p := by
    intro p
    rw [hadded₁, hadded₂, h.needs (fun _ => rfl : Scope.OfferSame [] []), hscopes]
  rw [hcopy₁, hcopy₂]
  obtain ⟨tag₁, children₁⟩ := e₁
  obtain ⟨tag₂, children₂⟩ := e₂
  cases h with
  | element ht hchildren => exact .element (ht.rooting hsame) hchildren.duplicate
  | other hn => cases hn

end Xml

/-! ### What waits and what shows -/

/-- Two lists of what waits, in which each directive has the same value and the others come in the
same order. -/
structure Waits (w₁ w₂ : List (String × String)) : Prop where
  lookup : ∀ d : Directive, w₁.lookup d.tag = w₂.lookup d.tag
  others : (w₁.filter fun w => (Directive.ofTag? w.1).isNone)
    = w₂.filter fun w => (Directive.ofTag? w.1).isNone

namespace Waits

variable {w₁ w₂ : List (String × String)}

/-- A directive that has been taken off waits no longer. -/
theorem without (h : Waits w₁ w₂) (name : String) :
    Waits (w₁.filter fun w => w.1 != name) (w₂.filter fun w => w.1 != name) := by
  refine ⟨fun d => ?_, ?_⟩
  · rw [lookup_filter_ne, lookup_filter_ne, h.lookup]
  · rw [List.filter_comm, h.others, List.filter_comm]

/-- When no directive waits any more, what is left over is the same. -/
theorem eq_of_none (h : Waits w₁ w₂) (hnone : ∀ d : Directive, w₁.lookup d.tag = none) :
    w₁ = w₂ := by
  have hothers : ∀ w : List (String × String), (∀ d : Directive, w.lookup d.tag = none) →
      (w.filter fun w => (Directive.ofTag? w.1).isNone) = w := by
    intro w hw
    refine List.filter_eq_self.mpr fun x hx => ?_
    rw [Option.isNone_iff_eq_none, Directive.ofTag?_eq_none_iff]
    intro d hd
    exact bne_iff_ne.mp (List.lookup_eq_none_iff.mp (hw d) x hx) hd.symm
  rw [← hothers w₁ hnone, h.others, hothers w₂ fun d => (h.lookup d).symm.trans (hnone d)]

end Waits

/-- Whether a key is that of a directive that waits. -/
def hides (waiting : List (String × String)) (key : String) : Bool :=
  Directive.all.any fun d => (waiting.lookup d.tag).isSome && key == attributeKey standardUri d.tag

/-- A key is hidden if it is that of a directive that still waits. -/
theorem hides_eq_true_iff {waiting : List (String × String)} {key : String} :
    hides waiting key = true ↔
      ∃ d : Directive, waiting.lookup d.tag ≠ none ∧ key = attributeKey standardUri d.tag := by
  unfold hides
  simp only [List.any_eq_true, Bool.and_eq_true, Option.isSome_iff_ne_none, beq_iff_eq]
  exact ⟨fun ⟨d, _, h⟩ => ⟨d, h⟩, fun ⟨d, h⟩ => ⟨d, d.mem_all, h⟩⟩

/-- Nothing is hidden when no directive waits. -/
theorem hides_of_none {waiting : List (String × String)}
    (h : ∀ d : Directive, waiting.lookup d.tag = none) (key : String) :
    hides waiting key = false := by
  rw [Bool.eq_false_iff, Ne, hides_eq_true_iff]
  exact fun ⟨d, hd, _⟩ => hd (h d)

namespace Xml

/-- A tag without the directives that wait. -/
def Tag.showing (t : Tag) (waiting : List (String × String)) : Tag :=
  { t with attributes := t.attributes.filter fun a => !hides waiting a.name.clark }

/-- Where no directive waits, the whole tag shows. -/
theorem Tag.showing_of_none {waiting : List (String × String)}
    (h : ∀ d : Directive, waiting.lookup d.tag = none) (t : Tag) : t.showing waiting = t := by
  unfold Tag.showing
  rw [List.filter_eq_self.mpr fun a _ => by rw [hides_of_none h]; rfl]

/-- An attribute may be taken off a tag or off what shows of it. -/
theorem Tag.showing_withoutAttribute (t : Tag) (waiting : List (String × String)) (key : String) :
    (t.withoutAttribute key).showing waiting = (t.showing waiting).withoutAttribute key := by
  unfold Tag.showing Tag.withoutAttribute
  dsimp only
  rw [List.filter_comm]

/-- Setting an attribute shows unless a directive of the same key still waits. -/
theorem Tag.showing_withAttribute (t : Tag) (waiting : List (String × String)) (name : Name)
    (value : String) :
    (t.withAttribute name value).showing waiting
      = if hides waiting name.clark then t.showing waiting
        else (t.showing waiting).withAttribute name value := by
  -- Whether an attribute shows is told by its key, which it keeps when it is set anew.
  have hset : (t.attributes.map fun a => if a.name.clark == name.clark then
        ({ name, value } : Attribute) else a).filter (fun a => !hides waiting a.name.clark)
      = (t.attributes.filter fun a => !hides waiting a.name.clark).map fun a =>
        if a.name.clark == name.clark then { name, value } else a := by
    rw [List.filter_map]
    refine congrArg _ (List.filter_congr fun a _ => ?_)
    rw [Function.comp_apply]
    split
    · rename_i hkey
      rw [beq_iff_eq.mp hkey]
    · rfl
  cases hhides : hides waiting name.clark with
  | true =>
    have hkept : (t.attributes.filter fun a => !hides waiting a.name.clark).map (fun a =>
        if a.name.clark == name.clark then ({ name, value } : Attribute) else a)
          = t.attributes.filter fun a => !hides waiting a.name.clark := by
      rw [List.map_congr_left (g := id) fun a ha => ?_, List.map_id]
      have hshows := (List.mem_filter.mp ha).2
      rw [if_neg, id_eq]
      intro hkey
      rw [beq_iff_eq.mp hkey, hhides] at hshows
      cases hshows
    unfold Tag.withAttribute Tag.showing
    rw [if_pos rfl]
    split
    · dsimp only
      rw [hset, hkept]
    · dsimp only
      rw [List.filter_append, List.filter_singleton]
      simp only [hhides, Bool.not_true, cond_false, List.append_nil]
  | false =>
    have hany : (t.attributes.filter fun a => !hides waiting a.name.clark).any
          (fun a => a.name.clark == name.clark)
        = t.attributes.any fun a => a.name.clark == name.clark := by
      rw [List.any_filter]
      refine congrArg t.attributes.any (funext fun a => ?_)
      by_cases hkey : a.name.clark = name.clark
      · rw [hkey, hhides]
        rfl
      · rw [beq_eq_false_iff_ne.mpr hkey, Bool.and_false]
    rw [if_neg Bool.false_ne_true]
    unfold Tag.withAttribute Tag.showing
    dsimp only
    rw [hany]
    split
    · rw [← hset]
    · rw [List.filter_append, List.filter_singleton]
      simp only [hhides, Bool.not_false, cond_true]

/-- Taking a directive off that waits shows nothing new. -/
theorem Tag.showing_without (t : Tag) {waiting : List (String × String)} {d : Directive}
    (h : waiting.lookup d.tag ≠ none) :
    (t.withoutAttribute (attributeKey standardUri d.tag)).showing
      (waiting.filter fun w => w.1 != d.tag) = t.showing waiting := by
  unfold Tag.showing Tag.withoutAttribute
  dsimp only
  rw [List.filter_filter]
  refine congrArg (fun as => { t with attributes := as }) (List.filter_congr fun a _ => ?_)
  rw [Bool.eq_iff_iff, Bool.and_eq_true, bne_iff_ne]
  simp only [Bool.not_eq_true', ← Bool.not_eq_true, hides_eq_true_iff]
  constructor
  · -- An attribute that stays lies under no directive that waits: neither under `d` nor under
    -- another.
    rintro ⟨hothers, hkey⟩ ⟨d', hd', hkey'⟩
    refine hothers ⟨d', ?_, hkey'⟩
    rw [lookup_filter_ne, if_neg]
    · exact hd'
    · intro htag
      rw [htag] at hkey'
      exact hkey hkey'
  · -- An attribute under no directive is not the one that is removed, since `d` waits.
    intro hnone
    refine ⟨?_, fun hkey => hnone ⟨d, h, hkey⟩⟩
    rintro ⟨d', hd', hkey'⟩
    refine hnone ⟨d', fun hd => hd' ?_, hkey'⟩
    rw [lookup_filter_ne, hd, ite_self]

/-- Two tags that are the same but for prefixes, apart from the directives that wait. -/
structure Tag.Matched (waiting : List (String × String)) (t u : Tag) : Prop where
  name : t.name = u.name
  showing : (t.showing waiting).unprefixed = (u.showing waiting).unprefixed

namespace Tag.Matched

variable {waiting : List (String × String)} {t u : Tag} (h : t.Matched waiting u)
include h

/-- Matched tags come from the same line. -/
theorem line : t.line = u.line :=
  show (t.showing waiting).unprefixed.line = (u.showing waiting).unprefixed.line by rw [h.showing]

/-- An attribute may be taken off both. -/
theorem withoutAttribute (key : String) :
    (t.withoutAttribute key).Matched waiting (u.withoutAttribute key) := by
  refine ⟨h.name, ?_⟩
  rw [Tag.showing_withoutAttribute, Tag.showing_withoutAttribute, Tag.unprefixed_withoutAttribute,
    Tag.unprefixed_withoutAttribute, h.showing]

/-- An attribute may be set on both, by names that mean the same. -/
theorem withAttribute {name₁ name₂ : Name} (hname : name₁.unprefixed = name₂.unprefixed)
    (value : String) :
    (t.withAttribute name₁ value).Matched waiting (u.withAttribute name₂ value) := by
  have hclark : name₁.clark = name₂.clark := by
    rw [← name₁.clark_unprefixed, hname, name₂.clark_unprefixed]
  refine ⟨?_, ?_⟩
  · rw [Tag.name_withAttribute, Tag.name_withAttribute, h.name]
  · rw [Tag.showing_withAttribute, Tag.showing_withAttribute, hclark]
    split
    · exact h.showing
    · rw [Tag.unprefixed_withAttribute, Tag.unprefixed_withAttribute, h.showing, hname]

/-- A directive that waits is taken off. -/
theorem without {d : Directive} (hd : waiting.lookup d.tag ≠ none) :
    (t.withoutAttribute (attributeKey standardUri d.tag)).Matched
      (waiting.filter fun w => w.1 != d.tag)
      (u.withoutAttribute (attributeKey standardUri d.tag)) := by
  refine ⟨h.name, ?_⟩
  rw [t.showing_without hd, u.showing_without hd, h.showing]

end Tag.Matched

/-- All that shows on a tag while its directives wait is what is no directive. -/
theorem Tag.Reordered.matched {t u : Tag} (h : t.Reordered u) : t.Matched t.waiting u := by
  have hshows : ∀ t' : Tag, (∀ d : Directive, t'.waiting.lookup d.tag = t.waiting.lookup d.tag) →
      t'.attributes.filter (fun a => !hides t.waiting a.name.clark)
        = (t'.attributes.filter fun a => !a.isDirective).filter fun a =>
          !hides t.waiting a.name.clark := by
    intro t' hwaiting
    rw [List.filter_filter]
    refine List.filter_congr fun a ha => ?_
    cases hdirective : a.isDirective with
    | false => rw [Bool.not_false, Bool.and_true]
    | true =>
      unfold Attribute.isDirective at hdirective
      obtain ⟨huri, hsome⟩ := Bool.and_eq_true_iff.mp hdirective
      obtain ⟨d, hd⟩ := Option.isSome_iff_exists.mp hsome
      have hname : d.tag = a.name.localName := by
        unfold Directive.ofTag? at hd
        simpa using List.find?_some hd
      have hmem : (a.name.localName, a.value) ∈ t'.waiting :=
        List.mem_map.mpr ⟨a, List.mem_filter.mpr ⟨ha, huri⟩, rfl⟩
      -- The attribute itself is what waits.
      have hwaits : t.waiting.lookup d.tag ≠ none := by
        rw [← hwaiting, Ne, List.lookup_eq_none_iff]
        exact fun hnone => bne_iff_ne.mp (hnone _ hmem) hname
      have hkey : a.name.clark = attributeKey standardUri d.tag := by
        rw [hname, Name.clark_of_standard (beq_iff_eq.mp huri)]
      rw [hides_eq_true_iff.mpr ⟨d, hwaits, hkey⟩]
      rfl
  have hattributes : (t.showing t.waiting).attributes = (u.showing t.waiting).attributes := by
    unfold Tag.showing
    dsimp only
    rw [hshows t fun _ => rfl, hshows u fun d => (h.lookup_waiting d).symm, h.others]
  refine ⟨h.name, ?_⟩
  unfold Tag.unprefixed
  rw [hattributes]
  unfold Tag.showing
  rw [h.name, h.line]

end Xml

/-! ### Sites -/

/-- Two sites whose elements are reordered, at places where prefixes mean the same. -/
structure Site.Reordered (a b : Site) : Prop where
  scopes : a.scope.Alike b.scope
  nodes : a.element.toNode.Reordered b.element.toNode
  isBound : a.element.toNode.isBound a.scope = true
  locals : a.locals = b.locals

/-- Content that is reordered, or has been filled in and has no marks. -/
inductive ContentMatched (scope : Scope) : List Node → List Node → Prop
  | template {ms ns : List Node} : ReorderedList ms ns → areBound scope ms = true →
      ContentMatched scope ms ns
  | inserted {ms ns : List Node} : InsertedAlike ms ns → ContentMatched scope ms ns

/-- Two sites whose elements are the same but for prefixes and for the places of directives, where
some directives still wait to be handled. -/
structure Site.Matched (waiting : List (String × String)) (a b : Site) : Prop where
  scopes : a.innerScope.Alike b.innerScope
  tags : a.element.tag.Matched waiting b.element.tag
  content : ContentMatched a.innerScope a.element.children b.element.children
  locals : a.locals = b.locals

namespace Site.Reordered

variable {a b : Site} (h : a.Reordered b)
include h

/-- The first site is a reordering of itself. -/
theorem left : a.Reordered a := ⟨h.scopes.coherent₁.alike, .refl _, h.isBound, rfl⟩

/-- The tags of such elements are reorderings of each other. -/
theorem tags : a.element.tag.Reordered b.element.tag := by
  obtain ⟨⟨_, _⟩, _, _⟩ := a
  obtain ⟨⟨_, _⟩, _, _⟩ := b
  cases h.nodes with
  | element ht hchildren => exact ht
  | other hn => cases hn

/-- The children of such elements are reorderings of each other. -/
theorem children : ReorderedList a.element.children b.element.children := by
  obtain ⟨⟨_, _⟩, _, _⟩ := a
  obtain ⟨⟨_, _⟩, _, _⟩ := b
  cases h.nodes with
  | element ht hchildren => exact hchildren
  | other hn => cases hn

/-- A directive is taken off. -/
theorem without (d : Directive) : (a.without d).Reordered (b.without d) := by
  obtain ⟨htag, hchildren⟩ := Bool.and_eq_true_iff.mp h.isBound
  refine ⟨h.scopes, .element (h.tags.withoutAttribute _) h.children,
    Bool.and_eq_true_iff.mpr ⟨List.all_eq_true.mpr fun n hn => ?_, hchildren⟩, h.locals⟩
  have hnames : (a.without d).element.tag.names ⊆ a.element.tag.names :=
    List.cons_subset_cons _ (List.filter_sublist.map _).subset
  exact List.all_eq_true.mp htag n (hnames hn)

/-- In elements that are reordered prefixes mean the same. -/
theorem innerScopes : a.innerScope.Alike b.innerScope := by
  have hbound₁ := Bool.and_eq_true_iff.mp h.isBound
  have hbound₂ := h.tags.isBound h.scopes.uri? hbound₁.1
  refine ⟨fun p => ?_, ⟨Tag.isScoped_of_isBound hbound₁.1, h.scopes.coherent₁⟩,
    ⟨Tag.isScoped_of_isBound hbound₂, h.scopes.coherent₂⟩⟩
  unfold innerScope
  rw [Scope.uri?_cons, Scope.uri?_cons, h.scopes.uri?]
  exact congrArg (Option.or · _) (h.tags.declared p)

/-- While no directive has been handled but those that touch nothing. -/
theorem matched : a.Matched a.element.tag.waiting b :=
  ⟨h.innerScopes, h.tags.matched, .template h.children (Bool.and_eq_true_iff.mp h.isBound).2,
    h.locals⟩

/-- On both elements the same directives wait. -/
theorem waits : Waits a.element.tag.waiting b.element.tag.waiting :=
  ⟨h.tags.lookup_waiting, h.tags.waiting_others⟩

end Site.Reordered

namespace Site.Matched

variable {waiting : List (String × String)} {a b : Site}

/-- A directive that waits is taken off. -/
theorem without (h : a.Matched waiting b) {d : Directive} (hd : waiting.lookup d.tag ≠ none) :
    (a.without d).Matched (waiting.filter fun w => w.1 != d.tag) (b.without d) :=
  ⟨h.scopes, h.tags.without hd, h.content, h.locals⟩

/-- The elements get other attributes. -/
theorem retag (h : a.Matched waiting b) {t u : Tag} (ht : t.frame = a.element.tag.frame)
    (hu : u.frame = b.element.tag.frame) (htags : t.Matched waiting u) :
    Site.Matched waiting { a with element := { a.element with tag := t } }
      { b with element := { b.element with tag := u } } := by
  have ha : Site.innerScope { a with element := { a.element with tag := t } } = a.innerScope :=
    congrArg (· :: a.scope) ht
  have hb : Site.innerScope { b with element := { b.element with tag := u } } = b.innerScope :=
    congrArg (· :: b.scope) hu
  refine ⟨?_, htags, ?_, h.locals⟩
  · rw [ha, hb]
    exact h.scopes
  · rw [ha]
    exact h.content

/-- When no directive waits any more, the tags are the same but for prefixes. -/
theorem unprefixed (h : a.Matched waiting b)
    (hnone : ∀ d : Directive, waiting.lookup d.tag = none) :
    a.element.tag.unprefixed = b.element.tag.unprefixed := by
  have hshowing := h.tags.showing
  rwa [Tag.showing_of_none hnone, Tag.showing_of_none hnone] at hshowing

end Site.Matched

end AttrTemplates
