import AttrTemplates.Proofs.Xml.Reader
import AttrTemplates.Xml.Move

/-!
# `AttrTemplates.Proofs.Xml.Bound`: names under bindings in force, and what copies make of them

In a tree that was read every name, be it of an element or of an attribute, is written under a
binding that the declarations around it make. Such a tree is *bound*. A copy of a bound element
takes along just the declarations that names in it need from outside, so that no name gets another
binding: what a copy is can be said without going through it name by name.

* `Source.isBound_root`: the root of every document that was read is bound.
* `Node.duplicate` is a bound node in a copy, and `Node.needs` tells the prefixes whose declarations
  the copy brings along.
* `Element.standalone_of_isBound` says what the copy of an element is, and
  `Element.isBound_standalone` that it is bound again, in a document of its own.
-/

set_option autoImplicit false

namespace AttrTemplates.Xml

/-! ### Names and bindings in force -/

/-- Whether a binding is one in force: the declarations say the same about its prefix. The prefix
`xml` has its meaning without a declaration, and no other. -/
def Scope.makes (scope : Scope) (b : Binding) : Bool :=
  b == Binding.xml || b.nsPrefix != some "xml" && scope.uri? b.nsPrefix == some b.uri

/-- The names in a tag: its own and those of its attributes. -/
def Tag.names (t : Tag) : List Name := t.name :: t.attributes.map (·.name)

/-- Whether all names in a tag are written under bindings in force. -/
def Tag.isBound (scope : Scope) (t : Tag) : Bool :=
  t.names.all fun n => n.binding.all (Scope.makes (t.frame :: scope))

mutual

/-- Whether all names in a node are written under bindings in force. -/
def Node.isBound (scope : Scope) : Node → Bool
  | .element tag children => tag.isBound scope && areBound (tag.frame :: scope) children
  | _ => true

/-- Whether all names in nodes are written under bindings in force. -/
def areBound (scope : Scope) : List Node → Bool
  | [] => true
  | n :: ns => n.isBound scope && areBound scope ns

end

/-- Whether a scope makes a binding depends on what prefixes mean in it. -/
theorem Scope.makes_congr {scope₁ scope₂ : Scope} (h : ∀ p, scope₁.uri? p = scope₂.uri? p)
    (b : Binding) : scope₁.makes b = scope₂.makes b := by
  unfold Scope.makes
  rw [h]

/-- One more frame keeps the meanings of two scopes the same. -/
theorem Scope.uri?_cons_congr {scope₁ scope₂ : Scope} (h : ∀ p, scope₁.uri? p = scope₂.uri? p)
    (f : Frame) (p : Option String) :
    Scope.uri? (f :: scope₁) p = Scope.uri? (f :: scope₂) p := by
  rw [Scope.uri?_cons, Scope.uri?_cons, h]

/-- Whether the names of a tag are bound depends on what prefixes mean around it. -/
theorem Tag.isBound_congr {scope₁ scope₂ : Scope} (h : ∀ p, scope₁.uri? p = scope₂.uri? p)
    (t : Tag) : t.isBound scope₁ = t.isBound scope₂ := by
  unfold Tag.isBound
  simp only [funext (Scope.makes_congr (Scope.uri?_cons_congr h t.frame))]

mutual

/-- It is the declarations alone that count. -/
theorem Node.isBound_congr {scope₁ scope₂ : Scope} (h : ∀ p, scope₁.uri? p = scope₂.uri? p) :
    (n : Node) → n.isBound scope₁ = n.isBound scope₂
  | .element tag children => by
    rw [Node.isBound, Node.isBound, tag.isBound_congr h,
      areBound_congr (Scope.uri?_cons_congr h tag.frame) children]
  | .comment .. => rfl
  | .instruction .. => rfl
  | .reference _ => rfl
  | .text _ => rfl

/-- The same for lists of nodes. -/
theorem areBound_congr {scope₁ scope₂ : Scope} (h : ∀ p, scope₁.uri? p = scope₂.uri? p) :
    (ns : List Node) → areBound scope₁ ns = areBound scope₂ ns
  | [] => rfl
  | n :: ns => by rw [areBound, areBound, Node.isBound_congr h n, areBound_congr h ns]

end

/-- Nodes are bound if each of them is. -/
theorem areBound_iff {scope : Scope} {ns : List Node} :
    areBound scope ns = true ↔ ∀ n ∈ ns, n.isBound scope = true := by
  induction ns with
  | nil => exact ⟨(fun _ _ hn => nomatch hn), fun _ => rfl⟩
  | cons n ns ih => rw [areBound, Bool.and_eq_true_iff, ih, List.forall_mem_cons]

/-- A tag whose names are bound agrees with the declarations in force. -/
theorem Tag.isScoped_of_isBound {scope : Scope} {t : Tag} (h : t.isBound scope = true) :
    t.frame.isScoped scope = true := by
  have hname := List.all_eq_true.mp h t.name List.mem_cons_self
  unfold Frame.isScoped Tag.frame
  dsimp only
  cases hb : t.name.binding with
  | none => rfl
  | some b =>
    rw [hb] at hname
    unfold Scope.makes at hname
    rw [Option.all_some, Bool.or_eq_true, Bool.and_eq_true] at hname
    rw [Bool.or_eq_true]
    unfold Tag.frame at hname
    rw [hb] at hname
    exact hname.imp_right And.right

/-! ### Trees that were read -/

namespace Read

section

variable {scope : Scope} {g : Setting}

/-- A name that was resolved is written under a binding in force. -/
theorem makes_of_resolve? {isAttribute : Bool} {w : Written} {n : Name}
    (h : resolve? scope isAttribute w = some n) : n.binding.all scope.makes = true := by
  unfold resolve? at h
  split at h
  · cases h
    rfl
  · rename_i p hp _
    obtain ⟨uri, huri, rfl⟩ := Option.map_eq_some_iff.mp h
    -- The prefix is not `xml`, which is always in force, so it was found among the declarations.
    have hne : ((some p : Option String) != some "xml") = true := by
      rw [bne_iff_ne]
      rintro ⟨⟩
      exact hp rfl
    unfold Scope.makes
    rw [Option.all_some, hne, huri, beq_self_eq_true, Bool.and_self, Bool.or_true]
  · split at h
    · cases h
      rfl
    · split at h
      · rename_i uri huri
        cases h
        split
        · rfl
        · unfold Scope.makes
          rw [Option.all_some, huri, beq_self_eq_true, Bool.and_true]
          exact Bool.or_true _
      · cases h
        rfl

/-- A name is resolved to a binding that the scope makes. -/
theorem yields_resolve_makes (isAttribute : Bool) (w : Written) :
    Yields (fun x => x.1.binding.all scope.makes = true) (resolve scope isAttribute w) := by
  unfold resolve
  split
  · rename_i h
    exact yields_pure (makes_of_resolve? h)
  · exact yields_bind fun _ => yields_pure rfl

/-- What each of some steps yields, all of them yield. -/
theorem yields_mapM {α β : Type} {P : β → Prop} {f : α → Read β} {as : List α}
    (h : ∀ a ∈ as, Yields P (f a)) : Yields (fun bs => ∀ b ∈ bs, P b) (as.mapM f) := by
  induction as with
  | nil => exact yields_pure fun _ hb => nomatch hb
  | cons a as ih =>
    obtain ⟨ha, has⟩ := List.forall_mem_cons.mp h
    rw [List.mapM_cons]
    refine ha.bind fun b hb => (ih has).bind fun bs hbs => yields_pure ?_
    exact List.forall_mem_cons.mpr ⟨hb, hbs⟩

/-- Attributes that rules add have plain names. -/
theorem plain_of_withDefaults (rules : List AttributeRule) {attributes : List Attribute}
    (h : ∀ a ∈ attributes, a.name.binding = none) :
    ∀ a ∈ withDefaults rules attributes, a.name.binding = none := by
  unfold withDefaults
  induction rules generalizing attributes with
  | nil => exact h
  | cons r rules ih =>
    refine ih ?_
    dsimp only
    split
    · split
      · exact h
      · exact List.forall_mem_append.mpr ⟨h, List.forall_mem_singleton.mpr rfl⟩
    · exact h

/-- The reader binds the names of a start tag. -/
theorem yields_startTag_isBound (depth : Nat) :
    Yields (fun x => x.2.isBound scope = true) (startTag g scope depth) := by
  unfold startTag
  refine yields_bind fun _ => yields_bind fun written => ?_
  split
  · exact yields_stop
  · rename_i name
    refine yields_bind fun _ => yields_bind fun _ => yields_bind fun read => yields_ite ?_ ?_
    · generalize withDefaultBindings _ _ = declarations
      refine Yields.bind (P := fun resolved : List (Written × Attribute × Bool) =>
        ∀ x ∈ resolved, x.2.1.name.binding.all (Scope.makes (⟨declarations, none⟩ :: scope)) = true)
        (yields_mapM fun a _ => ?_) fun resolved hresolved => yields_bind fun _ => ?_
      · exact (yields_resolve_makes true a.name).bind fun x hx => yields_pure hx
      refine (yields_resolve_makes false name).bind fun x hx => yields_ite_stop ?_
      refine yields_bind fun _ => yields_bind fun _ => yields_pure ?_
      -- The name of a tag is no declaration, so the scope in it is the one they were resolved in.
      refine List.all_eq_true.mpr (List.forall_mem_cons.mpr ⟨hx, fun n hn => ?_⟩)
      obtain ⟨a, ha, rfl⟩ := List.mem_map.mp hn
      obtain ⟨x, hx, rfl⟩ := List.mem_map.mp ha
      exact hresolved x hx
    · -- Where there are no namespaces all names are plain.
      refine yields_bind fun _ => yields_bind fun _ => yields_pure ?_
      refine List.all_eq_true.mpr (List.forall_mem_cons.mpr ⟨rfl, fun n hn => ?_⟩)
      obtain ⟨a, ha, rfl⟩ := List.mem_map.mp hn
      have hplain : ∀ a ∈ read.1.map fun a : WrittenAttribute =>
          Attribute.ofParts (.plain a.name.localName) a.parts, a.name.binding = none := by
        intro a ha
        obtain ⟨w, -, rfl⟩ := List.mem_map.mp ha
        rfl
      dsimp only at ha
      split at ha
      · rw [plain_of_withDefaults _ hplain a ha]
        rfl
      · rw [hplain a ha]
        rfl

end

/-- That names are bound goes from children to their element. -/
theorem carried_isBound :
    Carried (fun scope tag => tag.isBound scope = true) fun scope n => n.isBound scope = true where
  text _ := rfl
  joined _ _ := rfl
  comment := rfl
  instruction := rfl
  reference := rfl
  element htag hchildren := Bool.and_eq_true_iff.mpr ⟨htag, areBound_iff.mpr hchildren⟩

end Read

/-- The names in the root of a document that was read are written under bindings in force. -/
theorem Source.isBound_root {d : Dialect} {source : Source} {document : Document}
    (h : source.read d = .ok document) : document.root.isBound [] = true :=
  Read.carried_root Read.carried_isBound (fun _ _ _ depth => Read.yields_startTag_isBound depth)
    Read.established_true h

/-! ### Copies -/

/-- A tag as it is in a copy: references to entities in its attributes stand for nothing. -/
def Tag.duplicate (t : Tag) : Tag :=
  { t with attributes := t.attributes.map Attribute.unexpanded }

mutual

/-- A node as it is in a copy. Comments and instructions stand on no line there. -/
def Node.duplicate : Node → Node
  | .element tag children => .element tag.duplicate (duplicateList children)
  | .comment s _ => .comment s none
  | .instruction target s _ => .instruction target s none
  | n => n

/-- Nodes as they are in a copy. -/
def duplicateList : List Node → List Node
  | [] => []
  | n :: ns => n.duplicate :: duplicateList ns

end

/-- Whether a name is written with a prefix for which there is nothing in the frames around it. -/
def Scope.lacks (inner : Scope) (p : Option String) (n : Name) : Bool :=
  n.binding.any fun b => b != Binding.xml && b.nsPrefix == p && (inner.binding? p).isNone

mutual

/-- Whether a name in a node needs a declaration of a prefix from outside. `inner` are the frames
around the node in the copy. -/
def Node.needs (inner : Scope) (p : Option String) : Node → Bool
  | .element tag children =>
    tag.names.any (Scope.lacks (tag.frame :: inner) p) || anyNeeds (tag.frame :: inner) p children
  | _ => false

/-- Whether a name in nodes needs a declaration of a prefix from outside. -/
def anyNeeds (inner : Scope) (p : Option String) : List Node → Bool
  | [] => false
  | n :: ns => n.needs inner p || anyNeeds inner p ns

end

/-- The own names of frames are written under bindings in force, where the frames stand in
`outer`. -/
def Scope.BoundIn : (inner outer : Scope) → Prop
  | [], _ => True
  | f :: inner, outer =>
    f.own.all (Scope.makes (f :: inner ++ outer)) = true ∧ Scope.BoundIn inner outer

section

variable {outer inner : Scope}

/-- What the declarations say about a prefix can be read off all bindings of the inner frames, since
their names agree with it. -/
theorem Scope.BoundIn.uri?_append (h : inner.BoundIn outer) {p : Option String}
    (hp : p ≠ some "xml") :
    Scope.uri? (inner ++ outer) p
      = (declared? (inner.flatMap Frame.bindings) p).or (outer.uri? p) := by
  induction inner with
  | nil => rfl
  | cons f inner ih =>
    obtain ⟨hown, hinner⟩ := h
    rw [List.flatMap_cons, Frame.bindings, declared?_append, declared?_append, List.cons_append,
      Scope.uri?_cons, ih hinner]
    -- Nearest first: the declarations of the frame, then its own name, then the frames around it.
    cases hdeclared : declared? f.declarations p with
    | some uri => rfl
    | none =>
      rw [Option.none_or, Option.none_or, Option.or_assoc]
      cases hb : f.own with
      | none => rfl
      | some b =>
        by_cases hnamed : b.nsPrefix = p
        · -- The name of the frame says what the declarations further out say.
          have hmakes : Scope.makes (f :: inner ++ outer) b = true := by
            rw [hb] at hown
            exact hown
          have hxml : (b == Binding.xml) = false := by
            rw [beq_eq_false_iff_ne]
            rintro rfl
            exact hp hnamed.symm
          unfold Scope.makes at hmakes
          rw [hxml, Bool.false_or, Bool.and_eq_true, beq_iff_eq, hnamed, List.cons_append,
            Scope.uri?_cons, hdeclared, Option.none_or, ih hinner] at hmakes
          rw [hmakes.2]
          unfold declared?
          simp only [Option.toList_some, List.find?_cons, beq_iff_eq.mpr hnamed, Option.map_some,
            Option.some_or]
        · unfold declared?
          simp only [Option.toList_some, List.find?_cons, List.find?_nil,
            beq_eq_false_iff_ne.mpr hnamed, Option.map_none, Option.none_or]

/-- The same as it is asked for a name in the nearest frame. -/
theorem Scope.BoundIn.uri?_cons_append (h : inner.BoundIn outer) (f : Frame) {p : Option String}
    (hp : p ≠ some "xml") :
    Scope.uri? (f :: inner ++ outer) p
      = ((Scope.binding? (f :: inner) p).map (·.uri)).or (outer.uri? p) := by
  have hbinding : (Scope.binding? (f :: inner) p).map (·.uri)
      = (declared? f.declarations p).or (declared? (inner.flatMap Frame.bindings) p) := by
    rw [Scope.binding?_eq_find?, Scope.candidates, ← declared?_append]
    rfl
  rw [List.cons_append, Scope.uri?_cons, h.uri?_append hp, hbinding, Option.or_assoc]

end

/-- Leaving expansions out of a value leaves the name. -/
theorem Attribute.unexpanded_name (a : Attribute) : a.unexpanded.name = a.name := by
  unfold Attribute.unexpanded
  split <;> rfl

/-- Giving an attribute its own name changes nothing. -/
theorem Attribute.unexpanded_with_name (a : Attribute) :
    ({ a.unexpanded with name := a.name } : Attribute) = a.unexpanded := by
  rw [← a.unexpanded_name]

/-- A binding is a prefix and a namespace. -/
theorem Binding.ext {b c : Binding} (hnamed : b.nsPrefix = c.nsPrefix) (huri : b.uri = c.uri) :
    b = c := by
  obtain ⟨p, uri⟩ := b
  cases hnamed
  cases huri
  rfl

/-- From one list of declarations to the next those were added that are needed, as the scope outside
has them. -/
structure Brings (outer : Scope) (needs : Option String → Bool) (added added' : List Binding) :
    Prop where
  declared? : ∀ p, declared? added' p
    = (declared? added p).or (if needs p then outer.uri? p else none)
  agrees : ∀ b ∈ added', outer.uri? b.nsPrefix = some b.uri

namespace Brings

variable {outer : Scope} {needs needs' : Option String → Bool} {added added' added'' : List Binding}

/-- Nothing is needed. -/
theorem rfl (hadded : ∀ b ∈ added, outer.uri? b.nsPrefix = some b.uri) :
    Brings outer (fun _ => false) added added :=
  ⟨fun _ => by rw [if_neg Bool.false_ne_true, Option.or_none], hadded⟩

/-- What is brought along is brought along step by step. -/
theorem trans (h : Brings outer needs added added') (h' : Brings outer needs' added' added'') :
    Brings outer (fun p => needs p || needs' p) added added'' := by
  refine ⟨fun p => ?_, h'.agrees⟩
  rw [h'.declared?, h.declared?, Option.or_assoc]
  cases needs p <;> cases needs' p <;> simp

/-- A prefix is declared for a binding that is in force outside, unless it is declared already. -/
theorem declaring (hadded : ∀ b ∈ added, outer.uri? b.nsPrefix = some b.uri) {b : Binding}
    (hb : outer.uri? b.nsPrefix = some b.uri) :
    ∃ added', (match added.find? (fun a => a.nsPrefix == b.nsPrefix) with
        | some found => (some found, added)
        | none => (some b, added ++ [b])) = (some b, added') ∧
      Brings outer (fun p => b.nsPrefix == p) added added' := by
  -- A declaration of the prefix that was added before agrees with the scope outside, and so it is
  -- the same.
  cases hold : added.find? fun a => a.nsPrefix == b.nsPrefix with
  | some c =>
    have hnamed : c.nsPrefix = b.nsPrefix := by simpa using List.find?_some hold
    have hc := hadded c (List.mem_of_find?_eq_some hold)
    rw [hnamed, hb] at hc
    obtain rfl := Binding.ext hnamed (Option.some.inj hc).symm
    refine ⟨added, Eq.refl _, fun p => ?_, hadded⟩
    by_cases hp : c.nsPrefix = p
    · subst hp
      unfold Xml.declared?
      rw [hold, Option.map_some, Option.some_or]
    · rw [if_neg (fun h => hp (beq_iff_eq.mp h)), Option.or_none]
  | none =>
    refine ⟨added ++ [b], Eq.refl _, fun p => ?_,
      List.forall_mem_append.mpr ⟨hadded, List.forall_mem_singleton.mpr hb⟩⟩
    rw [declared?_append]
    congr 1
    unfold Xml.declared?
    by_cases hp : b.nsPrefix = p
    · subst hp
      rw [if_pos (beq_self_eq_true _), hb]
      simp only [List.find?_cons, beq_self_eq_true, Option.map_some]
    · rw [if_neg (fun h => hp (beq_iff_eq.mp h))]
      simp only [List.find?_cons, List.find?_nil, beq_eq_false_iff_ne.mpr hp, Option.map_none]

end Brings

section

variable {outer inner : Scope} {f : Frame} (hinner : inner.BoundIn outer)
include hinner

/-- A copy leaves a name under the binding it has. If nothing in the copy makes it, a declaration is
brought along. -/
theorem copiedBinding_of_makes {added : List Binding}
    (hadded : ∀ b ∈ added, outer.uri? b.nsPrefix = some b.uri) {n : Name}
    (hn : n.binding.all (Scope.makes (f :: inner ++ outer)) = true) :
    ∃ added', copiedBinding (f :: inner) added n.binding = (n.binding, added') ∧
      Brings outer (fun p => Scope.lacks (f :: inner) p n) added added' := by
  unfold Scope.lacks
  cases hb : n.binding with
  | none => exact ⟨added, rfl, .rfl hadded⟩
  | some b =>
    rw [hb, Option.all_some] at hn
    unfold copiedBinding
    simp only [Option.any_some]
    by_cases hxml : b = Binding.xml
    · refine ⟨added, if_pos (beq_iff_eq.mpr hxml), ?_⟩
      simp only [bne_eq_false_iff_eq.mpr hxml, Bool.false_and]
      exact .rfl hadded
    · rw [if_neg (fun h => hxml (beq_iff_eq.mp h))]
      unfold Scope.makes at hn
      rw [beq_eq_false_iff_ne.mpr hxml, Bool.false_or, Bool.and_eq_true, bne_iff_ne,
        beq_iff_eq] at hn
      obtain ⟨hp, huri⟩ := hn
      rw [hinner.uri?_cons_append f hp] at huri
      have hlacks : ∀ p, (b != Binding.xml && b.nsPrefix == p
            && (Scope.binding? (f :: inner) p).isNone)
          = (b.nsPrefix == p && (Scope.binding? (f :: inner) b.nsPrefix).isNone) := by
        intro p
        rw [bne_iff_ne.mpr hxml, Bool.true_and]
        by_cases hbp : b.nsPrefix = p
        · rw [hbp]
        · rw [beq_eq_false_iff_ne.mpr hbp, Bool.false_and, Bool.false_and]
      simp only [hlacks]
      cases hfound : Scope.binding? (f :: inner) b.nsPrefix with
      | some c =>
        -- What the copy has for the prefix is the binding of the name itself.
        rw [hfound, Option.map_some, Option.some_or] at huri
        have hnamed : c.nsPrefix = b.nsPrefix := by
          rw [Scope.binding?_eq_find?] at hfound
          simpa using List.find?_some hfound
        obtain rfl := Binding.ext hnamed (Option.some.inj huri)
        simp only [Option.isNone_some, Bool.and_false]
        exact ⟨added, rfl, .rfl hadded⟩
      | none =>
        rw [hfound, Option.map_none, Option.none_or] at huri
        simp only [Option.isNone_none, Bool.and_true]
        exact Brings.declaring hadded huri

/-- By induction on the attributes: each one whose prefix the copy lacks brings its binding along.
-/
theorem copiedAttributes_of_makes {as : List Attribute} {added : List Binding}
    (hadded : ∀ b ∈ added, outer.uri? b.nsPrefix = some b.uri)
    (has : ∀ a ∈ as, a.name.binding.all (Scope.makes (f :: inner ++ outer)) = true) :
    ∃ added', copiedAttributes (f :: inner) added as = (as.map Attribute.unexpanded, added') ∧
      Brings outer (fun p => (as.map (·.name)).any (Scope.lacks (f :: inner) p)) added added' := by
  induction as generalizing added with
  | nil => exact ⟨added, rfl, .rfl hadded⟩
  | cons a as ih =>
    obtain ⟨ha, has⟩ := List.forall_mem_cons.mp has
    obtain ⟨added₁, hfirst, hbrings₁⟩ := copiedBinding_of_makes hinner hadded ha
    obtain ⟨added₂, hrest, hbrings₂⟩ := ih hbrings₁.agrees has
    refine ⟨added₂, ?_, ?_⟩
    · simp only [copiedAttributes, hfirst, hrest, List.map_cons]
      rw [a.unexpanded_with_name]
    · simp only [List.map_cons, List.any_cons]
      exact hbrings₁.trans hbrings₂

end

/-- The names inside an element that is bound are bound with the element around them. -/
theorem Scope.BoundIn.cons {inner outer : Scope} (h : inner.BoundIn outer) {t : Tag}
    (ht : t.isBound (inner ++ outer) = true) : Scope.BoundIn (t.frame :: inner) outer :=
  ⟨List.all_eq_true.mp ht t.name List.mem_cons_self, h⟩

mutual

/-- What is bound is copied as it is, with the declarations that it needs from outside. -/
theorem Node.copied_of_isBound {outer inner : Scope} (hinner : inner.BoundIn outer)
    {added : List Binding} (hadded : ∀ b ∈ added, outer.uri? b.nsPrefix = some b.uri) :
    (n : Node) → n.isBound (inner ++ outer) = true →
      ∃ added', n.copied inner added = (n.duplicate, added') ∧
        Brings outer (fun p => n.needs inner p) added added'
  | .element tag children, h => by
    obtain ⟨htag, hchildren⟩ := Bool.and_eq_true_iff.mp h
    have hnames := List.all_eq_true.mp htag
    obtain ⟨added₁, hname, hbrings₁⟩ := copiedBinding_of_makes (f := ⟨tag.declarations, none⟩)
      hinner hadded (hnames tag.name List.mem_cons_self)
    obtain ⟨added₂, hattributes, hbrings₂⟩ := copiedAttributes_of_makes (f := tag.frame) hinner
      hbrings₁.agrees fun a ha =>
        hnames a.name (List.mem_cons_of_mem _ (List.mem_map_of_mem ha))
    obtain ⟨added₃, hcopied, hbrings₃⟩ :=
      copiedList_of_areBound (hinner.cons htag) hbrings₂.agrees children hchildren
    refine ⟨added₃, ?_, (hbrings₁.trans hbrings₂).trans hbrings₃⟩
    unfold Tag.frame at hattributes hcopied
    simp only [Node.copied, hname, hattributes, hcopied]
    rfl
  | .comment .., _ => ⟨added, rfl, .rfl hadded⟩
  | .instruction .., _ => ⟨added, rfl, .rfl hadded⟩
  | .reference _, _ => ⟨added, rfl, .rfl hadded⟩
  | .text _, _ => ⟨added, rfl, .rfl hadded⟩

/-- By recursion on the nodes: each copy is the duplicate, with the bindings that it needs brought
along. -/
theorem copiedList_of_areBound {outer inner : Scope} (hinner : inner.BoundIn outer)
    {added : List Binding} (hadded : ∀ b ∈ added, outer.uri? b.nsPrefix = some b.uri) :
    (ns : List Node) → areBound (inner ++ outer) ns = true →
      ∃ added', copiedList inner added ns = (duplicateList ns, added') ∧
        Brings outer (fun p => anyNeeds inner p ns) added added'
  | [], _ => ⟨added, rfl, .rfl hadded⟩
  | n :: ns, h => by
    obtain ⟨hn, hns⟩ := Bool.and_eq_true_iff.mp h
    obtain ⟨added₁, hfirst, hbrings₁⟩ := Node.copied_of_isBound hinner hadded n hn
    obtain ⟨added₂, hrest, hbrings₂⟩ := copiedList_of_areBound hinner hbrings₁.agrees ns hns
    refine ⟨added₂, ?_, hbrings₁.trans hbrings₂⟩
    simp only [copiedList, hfirst, hrest, duplicateList]

end

/-- A tag at the root of a copy, with declarations that were brought along. -/
def Tag.rooting (t : Tag) (added : List Binding) : Tag :=
  { t.duplicate with declarations := t.declarations ++ added }

/-- The copy of an element whose names are bound: the element as it is, with the declarations that
it needs from outside. -/
theorem Element.standalone_of_isBound {outer : Scope} {e : Element}
    (h : e.toNode.isBound outer = true) :
    ∃ added, e.standalone = ⟨e.tag.rooting added, duplicateList e.children⟩ ∧
      ∀ p, declared? added p = if e.toNode.needs [] p then outer.uri? p else none := by
  have hinner : Scope.BoundIn [] outer := trivial
  have hnone : ∀ b ∈ ([] : List Binding), outer.uri? b.nsPrefix = some b.uri :=
    fun _ hb => nomatch hb
  obtain ⟨added, hcopied, hbrings⟩ := Node.copied_of_isBound hinner hnone e.toNode h
  refine ⟨added, ?_, fun p => ?_⟩
  · unfold standalone
    rw [hcopied]
    rfl
  · rw [hbrings.declared?]
    rfl

/-! ### Copies are bound -/

section

variable {outer outer' inner : Scope} (hinner : inner.BoundIn outer)
  (hinner' : inner.BoundIn outer')
include hinner hinner'

/-- A binding in force is in force in another scope as well, if nothing is missing there that the
name needs from outside. -/
theorem Scope.makes_of_lacks {f : Frame} {n : Name}
    (hn : n.binding.all (Scope.makes (f :: inner ++ outer)) = true)
    (hlacks : ∀ p, Scope.lacks (f :: inner) p n = true → outer'.uri? p = outer.uri? p) :
    n.binding.all (Scope.makes (f :: inner ++ outer')) = true := by
  unfold Scope.lacks at hlacks
  cases hb : n.binding with
  | none => rfl
  | some b =>
    rw [hb, Option.all_some] at hn
    rw [hb] at hlacks
    simp only [Option.any_some] at hlacks
    rw [Option.all_some]
    unfold Scope.makes at hn ⊢
    rw [Bool.or_eq_true, Bool.and_eq_true, bne_iff_ne, beq_iff_eq, beq_iff_eq] at hn ⊢
    refine hn.imp_right fun ⟨hp, huri⟩ => ⟨hp, ?_⟩
    rw [hinner.uri?_cons_append f hp] at huri
    rw [hinner'.uri?_cons_append f hp]
    -- A prefix that is bound inside is bound there in either scope. Any other is looked up outside,
    -- and then it is one of those that are lacking.
    cases hfound : Scope.binding? (f :: inner) b.nsPrefix with
    | some c =>
      rw [hfound] at huri
      exact huri
    | none =>
      rw [hfound, Option.map_none, Option.none_or] at huri
      rw [Option.map_none, Option.none_or]
      by_cases hxml : b = Binding.xml
      · exact absurd (congrArg Binding.nsPrefix hxml) hp
      · rw [hlacks b.nsPrefix ?_, huri]
        rw [hfound, bne_iff_ne.mpr hxml, beq_self_eq_true]
        rfl

/-- Outside of an element only those meanings count that its names lack inside. -/
theorem Tag.isBound_of_lacks {t : Tag} (ht : t.isBound (inner ++ outer) = true)
    (hlacks : ∀ p, t.names.any (Scope.lacks (t.frame :: inner) p) = true →
      outer'.uri? p = outer.uri? p) : t.isBound (inner ++ outer') = true := by
  refine List.all_eq_true.mpr fun n hn => ?_
  refine Scope.makes_of_lacks hinner hinner' (List.all_eq_true.mp ht n hn) fun p hp => ?_
  exact hlacks p (List.any_eq_true.mpr ⟨n, hn, hp⟩)

end

/-- A duplicate has the same names. -/
theorem Tag.names_duplicate (t : Tag) : t.duplicate.names = t.names := by
  unfold Tag.names Tag.duplicate
  rw [List.map_map]
  exact congrArg _ (List.map_congr_left fun a _ => a.unexpanded_name)

mutual

/-- A node in a copy is bound where there are the declarations that it needs from outside. -/
theorem Node.isBound_duplicate {outer outer' inner : Scope} (hinner : inner.BoundIn outer)
    (hinner' : inner.BoundIn outer') :
    (n : Node) → n.isBound (inner ++ outer) = true →
      (∀ p, n.needs inner p = true → outer'.uri? p = outer.uri? p) →
      n.duplicate.isBound (inner ++ outer') = true
  | .element tag children, h, hneeds => by
    obtain ⟨htag, hchildren⟩ := Bool.and_eq_true_iff.mp h
    have htag' := tag.isBound_of_lacks hinner hinner' htag fun p hp =>
      hneeds p (Bool.or_eq_true_iff.mpr (.inl hp))
    refine Bool.and_eq_true_iff.mpr ⟨?_, ?_⟩
    · unfold Tag.isBound
      rw [tag.names_duplicate]
      exact htag'
    · exact areBound_duplicate (hinner.cons htag) (hinner'.cons htag') children hchildren
        fun p hp => hneeds p (Bool.or_eq_true_iff.mpr (.inr hp))
  | .comment .., _, _ => rfl
  | .instruction .., _, _ => rfl
  | .reference _, _, _ => rfl
  | .text _, _, _ => rfl

/-- The duplicates of nodes are bound where what they need means the same. -/
theorem areBound_duplicate {outer outer' inner : Scope} (hinner : inner.BoundIn outer)
    (hinner' : inner.BoundIn outer') :
    (ns : List Node) → areBound (inner ++ outer) ns = true →
      (∀ p, anyNeeds inner p ns = true → outer'.uri? p = outer.uri? p) →
      areBound (inner ++ outer') (duplicateList ns) = true
  | [], _, _ => rfl
  | n :: ns, h, hneeds => by
    obtain ⟨hn, hns⟩ := Bool.and_eq_true_iff.mp h
    exact Bool.and_eq_true_iff.mpr
      ⟨Node.isBound_duplicate hinner hinner' n hn fun p hp =>
        hneeds p (Bool.or_eq_true_iff.mpr (.inl hp)),
      areBound_duplicate hinner hinner' ns hns fun p hp =>
        hneeds p (Bool.or_eq_true_iff.mpr (.inr hp))⟩

end

/-- The copy of an element whose names are bound is bound, as a document of its own. -/
theorem Element.isBound_standalone {outer : Scope} {e : Element}
    (h : e.toNode.isBound outer = true) : e.standalone.toNode.isBound [] = true := by
  obtain ⟨added, hcopy, hadded⟩ := e.standalone_of_isBound h
  have hinner : Scope.BoundIn [] outer := trivial
  -- It makes no difference whether the declarations stand on the root or around it.
  have hinner' : Scope.BoundIn [] [⟨added, none⟩] := trivial
  have houter : ∀ p, Scope.uri? [⟨added, none⟩] p = declared? added p := fun p => by
    rw [Scope.uri?_cons]
    exact Option.or_none
  have hbound := Node.isBound_duplicate hinner hinner' e.toNode h fun p hp => by
    rw [houter, hadded, if_pos hp]
  have huri : ∀ p, Scope.uri? [(e.tag.rooting added).frame] p
      = Scope.uri? (e.tag.frame :: [⟨added, none⟩]) p := by
    intro p
    rw [Scope.uri?_cons, Scope.uri?_cons, houter]
    exact (Option.or_none).trans (declared?_append _ _ p)
  obtain ⟨htag, hchildren⟩ := Bool.and_eq_true_iff.mp hbound
  rw [hcopy]
  refine Bool.and_eq_true_iff.mpr ⟨List.all_eq_true.mpr fun n hn => ?_, ?_⟩
  · rw [funext (Scope.makes_congr huri)]
    exact List.all_eq_true.mp htag n hn
  · exact (areBound_congr huri _).trans hchildren

end AttrTemplates.Xml
