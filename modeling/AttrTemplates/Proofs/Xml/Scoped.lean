import AttrTemplates.Proofs.Xml.Unprefixed

/-!
# `AttrTemplates.Proofs.Xml.Scoped`: names that agree with the declarations in force

Where a tree was read, the name of every element means what the declarations around it say about
its prefix. Such a tree is *scoped*, and the scopes in it are *coherent*. Then the names of the
elements around a place add nothing to the declarations: a prefix that is declared can be used.

* `Scope.Coherent.bindingFor?_isSome` is that: an attribute in the namespace of a declared prefix
  never needs a new prefix.
* `Scope.Alike` relates two coherent scopes that give every prefix the same meaning.
-/

set_option autoImplicit false

namespace AttrTemplates.Xml

/-! ### Scoped trees -/

/-- Whether a frame agrees with the declarations in force: its own name has the meaning that they
give to its prefix. -/
def Frame.isScoped (outer : Scope) (f : Frame) : Bool :=
  match f.own with
  | none => true
  | some b => b == Binding.xml || Scope.uri? (f :: outer) b.nsPrefix == some b.uri

/-- All frames of a scope agree with the declarations in force. -/
def Scope.Coherent : Scope → Prop
  | [] => True
  | f :: outer => f.isScoped outer = true ∧ Scope.Coherent outer

mutual

/-- Whether the names of the elements in a node agree with the declarations in force. -/
def Node.isScoped (scope : Scope) : Node → Bool
  | .element tag children => tag.frame.isScoped scope && areScoped (tag.frame :: scope) children
  | _ => true

/-- Whether the names of the elements in nodes agree with the declarations in force. -/
def areScoped (scope : Scope) : List Node → Bool
  | [] => true
  | n :: ns => n.isScoped scope && areScoped scope ns

end

/-- Nodes are scoped if those of both parts are. -/
theorem areScoped_append (scope : Scope) (ms ns : List Node) :
    areScoped scope (ms ++ ns) = (areScoped scope ms && areScoped scope ns) := by
  induction ms with
  | nil => rfl
  | cons m ms ih => rw [List.cons_append, areScoped, areScoped, ih, Bool.and_assoc]

/-- An element among nodes agrees with the declarations if it does, its children do in it, and the
nodes around it do. -/
theorem areScoped_around_iff {scope : Scope} {xs children ys : List Node} {tag : Tag} :
    areScoped scope (xs ++ .element tag children :: ys) = true ↔
      areScoped scope xs = true ∧ tag.frame.isScoped scope = true ∧
        areScoped (tag.frame :: scope) children = true ∧ areScoped scope ys = true := by
  rw [areScoped_append, areScoped, Node.isScoped, Bool.and_eq_true_iff, Bool.and_eq_true_iff,
    Bool.and_eq_true_iff, and_assoc]

/-! ### Bindings in a coherent scope -/

/-- What a prefix is declared to be is in the first declaration of it. -/
theorem declared?_eq_some_iff {bs : List Binding} {p : Option String} {uri : String} :
    declared? bs p = some uri ↔ bs.find? (fun b => b.nsPrefix == p) = some ⟨p, uri⟩ := by
  unfold declared?
  rw [Option.map_eq_some_iff]
  constructor
  · rintro ⟨b, hb, rfl⟩
    have hp := List.find?_some hb
    rw [hb, ← beq_iff_eq.mp hp]
  · intro h
    exact ⟨_, h, rfl⟩

/-- A frame that agrees with the declarations in force finds for a prefix what they say, and
nothing if they say nothing. -/
theorem Scope.Coherent.find?_bindings {scope : Scope} (h : scope.Coherent) {p : String}
    (hp : p ≠ "xml") :
    (scope.flatMap Frame.bindings).find? (fun b => b.nsPrefix == some p)
      = (scope.uri? (some p)).map fun uri => ⟨some p, uri⟩ := by
  induction scope with
  | nil => rfl
  | cons f outer ih =>
    obtain ⟨hframe, houter⟩ := h
    rw [List.flatMap_cons, List.find?_append, Frame.bindings, List.find?_append, ih houter]
    cases hdeclared : declared? f.declarations (some p) with
    | some uri =>
      rw [Scope.uri?_cons, declared?_eq_some_iff.mp hdeclared, hdeclared]
      rfl
    | none =>
      have hnone : f.declarations.find? (fun b => b.nsPrefix == some p) = none := by
        unfold declared? at hdeclared
        exact Option.map_eq_none_iff.mp hdeclared
      have huri : Scope.uri? (f :: outer) (some p) = Scope.uri? outer (some p) := by
        rw [Scope.uri?_cons, hdeclared, Option.none_or]
      rw [hnone, huri, Option.none_or]
      -- The own name speaks about the prefix only where the declarations say the same.
      cases hown : f.own with
      | none => rfl
      | some b =>
        by_cases hb : b.nsPrefix = some p
        · have hne : (b == Binding.xml) = false := by
            rw [beq_eq_false_iff_ne]
            rintro rfl
            exact hp (Option.some.inj hb).symm
          have hmeans : Scope.uri? outer (some p) = some b.uri := by
            unfold Frame.isScoped at hframe
            rw [hown] at hframe
            dsimp only at hframe
            rw [hne, hb, huri, Bool.false_or] at hframe
            exact beq_iff_eq.mp hframe
          rw [hmeans, ← hb]
          simp only [Option.toList_some, List.find?_cons, beq_self_eq_true, Option.some_or,
            Option.map_some]
        · simp only [Option.toList_some, List.find?_cons, List.find?_nil, beq_eq_false_iff_ne.mpr hb,
            Option.none_or]

/-- What is asked of a prefix on an element is what the declarations say. -/
theorem Scope.Coherent.binding?_eq {scope : Scope} (h : scope.Coherent) {p : String}
    (hp : p ≠ "xml") :
    scope.binding? (some p) = (scope.uri? (some p)).map fun uri => ⟨some p, uri⟩ := by
  cases scope with
  | nil => rfl
  | cons f outer =>
    rw [Scope.binding?_eq_find?, Scope.candidates, List.find?_append, h.2.find?_bindings hp,
      Scope.uri?_cons]
    cases hdeclared : declared? f.declarations (some p) with
    | some uri =>
      rw [declared?_eq_some_iff.mp hdeclared]
      rfl
    | none =>
      unfold declared? at hdeclared
      rw [Option.map_eq_none_iff.mp hdeclared]
      rfl

/-- An attribute in the namespace of a declared prefix needs no new one. -/
theorem Scope.Coherent.bindingFor?_isSome {scope : Scope} (h : scope.Coherent) {p uri : String}
    (hp : p ≠ "xml") (huri : scope.uri? (some p) = some uri) :
    ∃ b, scope.bindingFor? uri true = some b := by
  -- The namespace of `xml` has its prefix without a declaration.
  by_cases hxml : uri = xmlNamespace
  · refine ⟨Binding.xml, ?_⟩
    unfold Scope.bindingFor?
    rw [if_pos (beq_iff_eq.mpr hxml)]
  · have hbinding : scope.binding? (some p) = some ⟨some p, uri⟩ := by
      rw [h.binding?_eq hp, huri]
      rfl
    have hmem : (⟨some p, uri⟩ : Binding) ∈ scope.candidates := by
      rw [Scope.binding?_eq_find?] at hbinding
      exact List.mem_of_find?_eq_some hbinding
    rw [Scope.bindingFor?_eq_find? _ _ hxml, ← Option.isSome_iff_exists, List.find?_isSome]
    refine ⟨_, hmem, ?_⟩
    simp only [hbinding, beq_self_eq_true, Option.isNone_some, Bool.and_false, Bool.not_false,
      Bool.and_self]

/-! ### Scopes alike -/

/-- Two coherent scopes that give every prefix the same meaning. -/
structure Scope.Alike (scope₁ scope₂ : Scope) : Prop where
  uri? : ∀ p, scope₁.uri? p = scope₂.uri? p
  coherent₁ : scope₁.Coherent
  coherent₂ : scope₂.Coherent

/-- A coherent scope is like itself. -/
theorem Scope.Coherent.alike {scope : Scope} (h : scope.Coherent) : scope.Alike scope :=
  ⟨fun _ => rfl, h, h⟩

namespace Scope.Alike

variable {scope₁ scope₂ : Scope}

/-- Scopes are alike either way. -/
theorem symm (h : scope₁.Alike scope₂) : scope₂.Alike scope₁ :=
  ⟨fun p => (h.uri? p).symm, h.coherent₂, h.coherent₁⟩

/-- One more frame keeps the meanings the same. -/
theorem uri?_cons (h : scope₁.Alike scope₂) (f : Frame) (p : Option String) :
    Scope.uri? (f :: scope₁) p = Scope.uri? (f :: scope₂) p := by
  rw [Scope.uri?_cons, Scope.uri?_cons, h.uri? p]

/-- A frame is scoped in both or in neither. -/
theorem isScoped_frame (h : scope₁.Alike scope₂) (f : Frame) :
    f.isScoped scope₁ = f.isScoped scope₂ := by
  unfold Frame.isScoped
  cases f.own with
  | none => rfl
  | some b =>
    dsimp only
    rw [h.uri?_cons]

/-- An element that agrees with one of the scopes agrees with the other, and the scopes in it are
alike. -/
theorem cons (h : scope₁.Alike scope₂) {f : Frame} (hf : f.isScoped scope₁ = true) :
    Scope.Alike (f :: scope₁) (f :: scope₂) :=
  ⟨h.uri?_cons f, ⟨hf, h.coherent₁⟩, ⟨(h.isScoped_frame f).symm.trans hf, h.coherent₂⟩⟩

/-- A frame without declarations makes no difference. -/
theorem cons_left (h : scope₁.Alike scope₂) {f : Frame} (hf : f.isScoped scope₁ = true)
    (hnone : f.declarations = []) : Scope.Alike (f :: scope₁) scope₂ := by
  refine ⟨fun p => ?_, ⟨hf, h.coherent₁⟩, h.coherent₂⟩
  rw [Scope.uri?_cons, hnone, ← h.uri? p]
  rfl

end Scope.Alike

mutual

/-- Names agree with the declarations in force in any scope that is alike. -/
theorem Node.isScoped_of_alike {scope₁ scope₂ : Scope} (h : scope₁.Alike scope₂) :
    (n : Node) → n.isScoped scope₁ = true → n.isScoped scope₂ = true
  | .element tag children, hn => by
    obtain ⟨htag, hchildren⟩ := Bool.and_eq_true_iff.mp hn
    rw [Node.isScoped, ← h.isScoped_frame, htag,
      areScoped_of_alike (h.cons htag) children hchildren]
    rfl
  | .comment .., _ => rfl
  | .instruction .., _ => rfl
  | .reference _, _ => rfl
  | .text _, _ => rfl

/-- Nodes are scoped in scopes that are alike. -/
theorem areScoped_of_alike {scope₁ scope₂ : Scope} (h : scope₁.Alike scope₂) :
    (ns : List Node) → areScoped scope₁ ns = true → areScoped scope₂ ns = true
  | [], _ => rfl
  | n :: ns, hns => by
    obtain ⟨hn, hns⟩ := Bool.and_eq_true_iff.mp hns
    rw [areScoped, Node.isScoped_of_alike h n hn, areScoped_of_alike h ns hns]
    rfl

end

end AttrTemplates.Xml
