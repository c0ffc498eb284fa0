import AttrTemplates.Proofs.Xml.Bound

/-!
# `AttrTemplates.Proofs.Xml.Attributes`: the attributes in trees that were read

The reader lets no character pass in the value of an attribute that a document may not hold. The
value can come from several places: from between the quotes, from the texts that entities stand for,
and from a document type that declares it. An entity is looked into where it is declared, not where
it is referred to, so a document type has to be followed as well.

* `Node.attributes` are the attributes in a tree, and `Attribute.isLegal` tells those that a
  document may hold, whatever references in them stand for;
* `Setting.IsLegal` is what is known of the declarations of a document type;
* `Source.isLegal_attributes` says that all attributes in a document that was read are legal.
-/

set_option autoImplicit false

namespace AttrTemplates.Xml

/-! ### Attributes in a tree -/

mutual

/-- The attributes of the elements in a node in document order. -/
def Node.attributes : Node → List Attribute
  | .element tag children => tag.attributes ++ attributesList children
  | _ => []

/-- The attributes of the elements in nodes in document order. -/
def attributesList : List Node → List Attribute
  | [] => []
  | n :: ns => n.attributes ++ attributesList ns

end

/-- The attributes in nodes are those in each of them, one after the other. -/
theorem attributesList_eq_flatMap (ns : List Node) :
    attributesList ns = ns.flatMap Node.attributes := by
  induction ns with
  | nil => rfl
  | cons n ns ih => rw [attributesList, List.flatMap_cons, ih]

/-! ### Legal attributes -/

/-- Whether a document may hold the text that a part of a value stands for. -/
def ValuePart.isLegal (p : ValuePart) : Bool := isLegalText p.expanded

/-- Whether a document may hold an attribute: its value, and the parts that it was written in. -/
def Attribute.isLegal (a : Attribute) : Bool :=
  isLegalText a.value && a.spelling.all ValuePart.isLegal

/-- Legal texts are joined to a legal text. -/
theorem isLegalText_join {ss : List String} (h : ∀ s ∈ ss, isLegalText s = true) :
    isLegalText (String.join ss) = true := by
  induction ss with
  | nil => rfl
  | cons s ss ih =>
    obtain ⟨hs, hss⟩ := List.forall_mem_cons.mp h
    rw [String.join_cons, isLegalText_append, hs, ih hss]
    rfl

/-- A value that is put together from legal parts is legal. -/
theorem isLegalText_join_expanded {parts : List ValuePart} (h : ∀ p ∈ parts, p.isLegal = true) :
    isLegalText (String.join (parts.map ValuePart.expanded)) = true := by
  refine isLegalText_join fun s hs => ?_
  obtain ⟨p, hp, rfl⟩ := List.mem_map.mp hs
  exact h p hp

/-- An attribute that is made of legal parts has a legal value and a legal spelling. -/
theorem Attribute.isLegal_ofParts (name : Name) {parts : List ValuePart}
    (h : ∀ p ∈ parts, p.isLegal = true) : (Attribute.ofParts name parts).isLegal = true := by
  refine Bool.and_eq_true_iff.mpr ⟨isLegalText_join_expanded h, List.all_eq_true.mpr ?_⟩
  unfold Attribute.ofParts
  dsimp only
  split
  · exact h
  · exact fun _ hp => nomatch hp

/-- References that stand for nothing leave a legal value. -/
theorem Attribute.isLegal_unexpanded {a : Attribute} (h : a.isLegal = true) :
    a.unexpanded.isLegal = true := by
  unfold Attribute.unexpanded
  split
  · exact h
  · have hparts := List.all_eq_true.mp (Bool.and_eq_true_iff.mp h).2
    refine Bool.and_eq_true_iff.mpr ⟨isLegalText_join_expanded fun p hp => ?_, ?_⟩
    · exact hparts p (List.mem_filter.mp hp).1
    · exact (Bool.and_eq_true_iff.mp h).2

/-! ### Declarations -/

/-- Whether a document may hold the text that a declaration brings into attributes: that of an
entity, or the value that an attribute has by default. -/
def Declaration.isLegal : Declaration → Bool
  | .entity _ _ (.internal replacement _) => isLegalText replacement
  | .rule ⟨_, _, _, .byDefault _ parts⟩ => parts.all ValuePart.isLegal
  | _ => true

/-- A document may hold all texts that declarations bring into attributes. -/
def Setting.IsLegal (g : Setting) : Prop := ∀ d ∈ g.declarations, d.isLegal = true

/-- Nothing but the declarations counts. -/
theorem Setting.IsLegal.congr {g g' : Setting} (h : g.IsLegal)
    (hsame : g'.declarations = g.declarations) : g'.IsLegal := by
  intro d hd
  exact h d (hsame ▸ hd)

/-- The text of a declared entity is legal. -/
theorem Setting.IsLegal.entity? {g : Setting} (h : g.IsLegal) {name replacement written : String}
    (hentity : g.entity? name = some (.internal replacement written)) :
    isLegalText replacement = true := by
  obtain ⟨d, hd, hfound⟩ := List.exists_of_findSome?_eq_some hentity
  have hlegal := h d hd
  split at hfound
  · split at hfound
    · cases hfound
      exact hlegal
    · cases hfound
  · cases hfound

/-- The rules about an element are among the declarations, so their defaults are legal. -/
theorem Setting.IsLegal.rulesOf {g : Setting} (h : g.IsLegal) (element : String) :
    ∀ r ∈ rulesOf g.declarations element, (Declaration.rule r).isLegal = true := by
  intro r hr
  obtain ⟨d, hd, hfound⟩ := List.mem_filterMap.mp hr
  have hlegal := h d hd
  split at hfound
  · split at hfound
    · cases hfound
      exact hlegal
    · cases hfound
  · cases hfound

namespace Read

/-! ### Names -/

/-- A document may hold every character that names have. -/
theorem isXmlChar_of_isNameChar {c : Char} (h : isNameChar c = true) : isXmlChar c = true := by
  have hascii : c.isAlpha = true ∨ c.isDigit = true → 0x20 ≤ c.toNat ∧ c.toNat < 0x80 := by
    delta Char.isAlpha Char.isUpper Char.isLower Char.isDigit
    simp only [Bool.or_eq_true, Bool.and_eq_true, decide_eq_true_eq, UInt32.le_iff_toNat_le,
      ge_iff_le]
    have : c.toNat = c.val.toNat := rfl
    have : 'A'.val.toNat = 65 ∧ 'Z'.val.toNat = 90 := ⟨rfl, rfl⟩
    have : 'a'.val.toNat = 97 ∧ 'z'.val.toNat = 122 := ⟨rfl, rfl⟩
    have : '0'.val.toNat = 48 ∧ '9'.val.toNat = 57 := ⟨rfl, rfl⟩
    omega
  have hmark : c = '_' ∨ c = ':' ∨ c = '-' ∨ c = '.' → 0x20 ≤ c.toNat ∧ c.toNat < 0x80 := by
    rintro (rfl | rfl | rfl | rfl) <;> decide
  unfold isNameChar isNameStart at h
  simp only [Bool.or_eq_true, Bool.and_eq_true, decide_eq_true_eq, beq_iff_eq] at h
  -- Letters, digits and marks are ASCII. All others stand in ranges above, which `h` bounds.
  by_cases hletter : c.isAlpha = true ∨ c.isDigit = true
  · have := hascii hletter
    exact isXmlChar_of_le (by omega) (by omega) (by omega)
  · by_cases hsign : c = '_' ∨ c = ':' ∨ c = '-' ∨ c = '.'
    · have := hmark hsign
      exact isXmlChar_of_le (by omega) (by omega) (by omega)
    · simp only [not_or] at hletter hsign
      simp only [hletter, hsign, Bool.false_eq_true, false_or, or_false] at h
      exact isXmlChar_of_le (by omega) (by omega) (by omega)

/-- A name is a run of such characters. -/
theorem yields_name? : Yields (fun n? => ∀ n, n? = some n → isLegalText n = true) name? := by
  unfold name?
  refine yields_bind fun next => ?_
  split
  · refine yields_ite ?_ (yields_pure fun _ hn => by cases hn)
    refine (yields_takeWhile fun c hc => isXmlChar_of_isNameChar hc).bind fun cs hcs =>
      yields_pure fun n hn => ?_
    cases hn
    exact (isLegalText_ofList cs).trans hcs
  · exact yields_pure fun _ hn => by cases hn

/-- The same for a name that must be there. -/
theorem yields_someName : Yields (fun n => isLegalText n = true) someName := by
  unfold someName
  refine yields_name?.bind fun n? hn => ?_
  split
  · exact yields_pure (hn _ rfl)
  · exact yields_stop

/-- The same for the name of an entity. -/
theorem yields_entityName : Yields (fun n => isLegalText n = true) entityName := by
  unfold entityName
  exact yields_someName.bind fun n hn => yields_bind fun _ => yields_pure hn

/-! ### Texts of entities -/

/-- A replacement text keeps legal characters: what a literal holds and what character references in
it stand for. -/
theorem yields_replacementFrom (g : Setting) (fuel : Nat) {read : List Char}
    (hread : read.all isXmlChar = true) :
    Yields (fun x => x.1.all isXmlChar = true) (replacementFrom g read fuel) := by
  -- By induction on the fuel. The invariant is that what has been read so far is legal.
  induction fuel generalizing read with
  | zero => exact yields_stop
  | succ fuel ih =>
    unfold replacementFrom
    refine (yields_takeWhile fun c hc => (Bool.and_eq_true_iff.mp hc).2).bind fun plain hplain => ?_
    have hall := all_append_of_all hread hplain
    refine yields_bind fun next => ?_
    split
    · exact yields_pure hall
    · refine yields_bind fun _ => yields_bind fun _ => yields_ite (yields_bind fun _ => ?_) ?_
      · refine yields_characterReference.bind fun c hc => ih (all_append_of_all hall ?_)
        rw [List.all_cons, hc]
        rfl
      · -- A reference that stays is made of characters that may stay.
        refine yields_entityName.bind fun n hn => ih ?_
        have hname : n.toList.all isXmlChar = true := hn
        rw [List.all_append, List.all_append, hall, List.all_cons, hname]
        rfl
    · refine yields_bind fun _ => yields_bind fun _ => yields_ite_stop (yields_pure hall)
    · exact yields_stop

/-- What is yielded from every cursor is yielded where a whole text is read. -/
theorem Yields.of_all {α : Type} {P : α → Prop} {r : Read α} (hr : Yields P r) {cs : List Char}
    {a : α} {f : Findings} (h : r.all cs = .ok (a, f)) : P a := by
  unfold Read.all at h
  cases hrun : r (Cursor.start cs) with
  | error p =>
    rw [hrun] at h
    cases h
  | ok x =>
    rw [hrun] at h
    cases h
    exact hr hrun

/-- What is found inside the text of an entity has the property as well. -/
theorem yields_within {α : Type} {P : α → Prop} {r : Read α} (hr : Yields P r)
    (text : List Char) : Yields P (within text r) := by
  intro c a c' h
  let inner : Cursor :=
    { rest := text, position := ⟨1, 1⟩, origin := some c.position, findings := c.findings }
  have hwithin : within text r c
      = r inner >>= fun x => .ok (x.1, { c with findings := x.2.findings }) := rfl
  rw [hwithin] at h
  cases hrun : r inner with
  | error p =>
    rw [hrun] at h
    cases h
  | ok x =>
    rw [hrun] at h
    cases h
    exact hr hrun

/-- What an entity is declared as, with the setting then. -/
def DefinesLegal (x : Entity × Setting) : Prop :=
  (∀ parameter name, (Declaration.entity parameter name x.1).isLegal = true) ∧ x.2.IsLegal

/-- The literal of an entity defines a legal replacement. -/
theorem yields_entityLiteral {g : Setting} (hg : g.IsLegal) :
    Yields DefinesLegal (entityLiteral g) := by
  unfold entityLiteral
  refine yields_bind fun next => ?_
  split
  · refine yields_bind fun _ => yields_bind fun written => yields_bind fun _ =>
      yields_bind fun _ => yields_ite_stop ?_
    split
    · exact yields_stop
    · rename_i replacement whole _ hread
      have hlegal := (yields_replacementFrom g _ rfl).of_all hread
      have hreplaced : isLegalText (String.ofList replacement) = true :=
        (isLegalText_ofList replacement).trans hlegal
      cases whole with
      | true => exact yields_bind fun _ => yields_pure ⟨fun _ _ => hreplaced, hg⟩
      | false =>
        exact yields_bind fun _ => yields_bind fun _ => yields_pure ⟨fun _ _ => hreplaced, hg⟩
  · exact yields_stop

/-! ### Legal texts -/

section

variable {α β : Type} {P : α → Prop} {Q : β → Prop}

/-- In a text that a document may hold a reader has results with a property, and leaves a text that
a document may hold. -/
def YieldsIn (P : α → Prop) (r : Read α) : Prop :=
  ∀ ⦃c a c'⦄, c.rest.all isXmlChar = true → r c = .ok (a, c') →
    P a ∧ c'.rest.all isXmlChar = true

/-- A result that is known beforehand has the property. -/
theorem yieldsIn_pure {a : α} (h : P a) : YieldsIn P (pure a) := by
  intro c b c' hc hr
  cases hr
  exact ⟨h, hc⟩

/-- There is no result that could lack the property. -/
theorem yieldsIn_stop : YieldsIn P stop := fun _ _ _ _ hr => nomatch hr

/-- A sequence yields what its second part does, from a text that is still legal. -/
theorem YieldsIn.bind {r : Read α} {f : α → Read β} (hr : YieldsIn P r)
    (hf : ∀ a, P a → YieldsIn Q (f a)) : YieldsIn Q (r >>= f) := by
  intro c b c'' hc hrun
  change (r c >>= fun x => f x.1 x.2) = .ok (b, c'') at hrun
  cases hfirst : r c with
  | error e =>
    rw [hfirst] at hrun
    cases hrun
  | ok x =>
    rw [hfirst] at hrun
    obtain ⟨ha, hleft⟩ := hr hc hfirst
    exact hf x.1 ha hleft hrun

/-- A choice yields what both of its branches do. -/
theorem yieldsIn_ite {c : Prop} [Decidable c] {r r' : Read α} (hr : YieldsIn P r)
    (hr' : YieldsIn P r') : YieldsIn P (if c then r else r') := by
  split
  · exact hr
  · exact hr'

/-- Nothing is asked of the next character, and the text stays legal. -/
theorem yieldsIn_peek : YieldsIn (fun _ => True) peek := by
  intro c a c' hc hr
  cases hr
  exact ⟨trivial, hc⟩

/-- Nothing is asked of the answer, and the text stays legal. -/
theorem yieldsIn_looksAt (s : String) : YieldsIn (fun _ => True) (looksAt s) := by
  intro c a c' hc hr
  cases hr
  exact ⟨trivial, hc⟩

/-- What is left of a legal text is legal. -/
theorem yieldsIn_skip (n : Nat) : YieldsIn (fun _ => True) (skip n) := by
  intro c a c' hc hr
  cases hr
  refine ⟨trivial, List.all_eq_true.mpr fun x hx => ?_⟩
  exact List.all_eq_true.mp hc x ((List.drop_sublist n c.rest).subset hx)

/-- A run that is taken off a legal text is legal. -/
theorem yieldsIn_takeWhile (p : Char → Bool) :
    YieldsIn (fun cs => cs.all isXmlChar = true) (takeWhile p) := by
  intro c cs c' hc hr
  obtain ⟨rfl, hleft⟩ : (c.rest.span p).1 = cs ∧ c'.rest = (c.rest.span p).2 := by
    cases hr
    exact ⟨rfl, rfl⟩
  rw [List.span_eq_takeWhile_dropWhile] at hleft ⊢
  have hmem := List.all_eq_true.mp hc
  refine ⟨List.all_eq_true.mpr fun x hx => hmem x ((List.takeWhile_sublist p).subset hx), ?_⟩
  rw [hleft]
  exact List.all_eq_true.mpr fun x hx => hmem x ((List.dropWhile_sublist p).subset hx)

/-- In a legal text the property is found. -/
theorem YieldsIn.of_all {r : Read α} (hr : YieldsIn P r) {text : String}
    (htext : isLegalText text = true) {a : α} {f : Findings} (h : r.all text.toList = .ok (a, f)) :
    P a := by
  unfold Read.all at h
  cases hrun : r (Cursor.start text.toList) with
  | error p =>
    rw [hrun] at h
    cases h
  | ok x =>
    rw [hrun] at h
    cases h
    exact (@hr (Cursor.start text.toList) _ _ htext hrun).1

/-- What is known of a result anyway, is known of it in a legal text. -/
theorem Yields.inLegal {r : Read α} (hr : Yields P r) (hleft : YieldsIn (fun _ => True) r) :
    YieldsIn P r :=
  fun _ _ _ hc hrun => ⟨hr hrun, (hleft hc hrun).2⟩

end

/-- A character reference that is not turned down stands for a character that a document may hold.
-/
theorem yieldsIn_characterReference :
    YieldsIn (fun c => isXmlChar c = true) characterReference := by
  refine yields_characterReference.inLegal ?_
  unfold characterReference
  refine YieldsIn.bind (P := fun _ => True) ?_ fun base _ => ?_
  · refine yieldsIn_peek.bind fun next _ => yieldsIn_ite ?_ (yieldsIn_pure trivial)
    exact (yieldsIn_skip 1).bind fun _ _ => yieldsIn_pure trivial
  refine (yieldsIn_takeWhile _).bind fun digits _ => yieldsIn_peek.bind fun next _ => ?_
  have hend : YieldsIn (fun _ => True) (do
      skip 1
      let n := Number.ofDigits base digits
      let c := Char.ofNat n
      if n.isValidChar && isXmlChar c && n != 0 then pure c else stop : Read Char) :=
    (yieldsIn_skip 1).bind fun _ _ => yieldsIn_ite (yieldsIn_pure trivial) yieldsIn_stop
  exact yieldsIn_ite (yieldsIn_stop.bind (P := fun _ => False) fun _ h => h.elim) hend

/-- The name of an entity is read the same way inside a legal text. -/
theorem yieldsIn_entityName : YieldsIn (fun n => isLegalText n = true) entityName := by
  refine yields_entityName.inLegal ?_
  have hname : YieldsIn (fun _ => True) someName := by
    unfold someName name?
    refine YieldsIn.bind (P := fun _ => True) ?_ fun n? _ => ?_
    · refine yieldsIn_peek.bind fun next _ => ?_
      split
      · refine yieldsIn_ite ?_ (yieldsIn_pure trivial)
        exact (yieldsIn_takeWhile _).bind fun _ _ => yieldsIn_pure trivial
      · exact yieldsIn_pure trivial
    · split
      · exact yieldsIn_pure trivial
      · exact yieldsIn_stop
  unfold entityName expect
  refine hname.bind fun n _ => YieldsIn.bind (P := fun _ => True) ?_ fun _ _ =>
    yieldsIn_pure trivial
  exact (yieldsIn_looksAt ";").bind fun _ _ => yieldsIn_ite (yieldsIn_skip _) yieldsIn_stop

/-! ### Values of attributes -/

/-- Blanks in a value become spaces, and the other characters stay. -/
theorem all_attributeBlanks {cs : List Char} (h : cs.all isXmlChar = true) :
    (attributeBlanks cs).all isXmlChar = true := by
  fun_induction attributeBlanks cs with
  | case1 cs ih =>
    rw [List.all_cons, List.all_cons, Bool.and_eq_true_iff, Bool.and_eq_true_iff] at h
    rw [List.all_cons, ih h.2.2]
    rfl
  | case2 c cs _ ih =>
    rw [List.all_cons, Bool.and_eq_true_iff] at h
    rw [List.all_cons, ih h.2, Bool.and_true]
    split
    · rfl
    · exact h.1
  | case3 => rfl

/-- Characters are added to the last part or as a part of their own, legal either way. -/
theorem isLegal_addText {cs : List Char} (hcs : cs.all isXmlChar = true) {parts : List ValuePart}
    (h : ∀ p ∈ parts, p.isLegal = true) : ∀ p ∈ addText cs parts, p.isLegal = true := by
  have htext : isLegalText (String.ofList cs) = true := (isLegalText_ofList cs).trans hcs
  unfold addText
  split
  · obtain ⟨hs, hparts⟩ := List.forall_mem_cons.mp h
    refine List.forall_mem_cons.mpr ⟨?_, hparts⟩
    exact (isLegalText_append _ _).trans (Bool.and_eq_true_iff.mpr ⟨hs, htext⟩)
  · split
    · exact h
    · exact List.forall_mem_cons.mpr ⟨htext, h⟩

/-- The text of a legal entity has legal parts. References in it stand for nothing yet. -/
theorem yieldsIn_replacementParts (fuel : Nat) {read : List ValuePart}
    (hread : ∀ p ∈ read, p.isLegal = true) :
    YieldsIn (fun parts => ∀ p ∈ parts, p.isLegal = true) (replacementParts read fuel) := by
  induction fuel generalizing read with
  | zero => exact yieldsIn_stop
  | succ fuel ih =>
    unfold replacementParts
    refine (yieldsIn_takeWhile _).bind fun plain hplain => ?_
    have hadded := isLegal_addText (all_attributeBlanks hplain) hread
    refine yieldsIn_peek.bind fun next _ => ?_
    split
    · refine (yieldsIn_skip 1).bind fun _ _ => yieldsIn_peek.bind fun next _ => yieldsIn_ite ?_ ?_
      · refine (yieldsIn_skip 1).bind fun _ _ => yieldsIn_characterReference.bind fun c hc => ih ?_
        refine isLegal_addText ?_ hadded
        rw [List.all_cons, hc]
        rfl
      · exact yieldsIn_entityName.bind fun n _ => ih (List.forall_mem_cons.mpr ⟨rfl, hadded⟩)
    · exact yieldsIn_stop
    · exact yieldsIn_pure fun p hp => hadded p (List.mem_reverse.mp hp)

/-- By induction on the depth: a legal replacement is taken apart, and the replacements that it
refers to are legal too. -/
theorem yields_expansion {g : Setting} (hg : g.IsLegal) (depth : Nat) {replacement : String}
    (h : isLegalText replacement = true) :
    Yields (fun cs => cs.all isXmlChar = true) (expansion g depth replacement) := by
  -- By induction on how deep entities may be nested in each other.
  induction depth generalizing replacement with
  | zero => exact yields_stop
  | succ depth ih =>
    unfold expansion
    split
    · exact yields_stop
    · rename_i parts _ hread
      have hnone : ∀ p ∈ ([] : List ValuePart), p.isLegal = true := fun _ hp => nomatch hp
      have hparts := (yieldsIn_replacementParts _ hnone).of_all h hread
      refine Yields.bind (P := fun texts : List (List Char) => ∀ cs ∈ texts, cs.all isXmlChar = true)
        (yields_mapM fun p hp => ?_) fun texts htexts => yields_pure ?_
      · split
        · exact yields_pure (hparts _ hp)
        · split
          · rename_i hpredefined
            refine yields_pure ?_
            rw [List.all_cons, isXmlChar_of_predefined? hpredefined]
            rfl
          · rename_i hentity
            exact ih (hg.entity? hentity)
          · exact yields_stop
          · exact yields_ite_stop (yields_bind fun _ => yields_pure rfl)
      · rw [List.all_flatten]
        exact List.all_eq_true.mpr htexts

/-- Some parts of a value are legal. -/
abbrev AreLegalParts (parts : List ValuePart) : Prop := ∀ p ∈ parts, p.isLegal = true

/-- Every round adds a part that is legal, so the parts read so far stay legal. -/
theorem yields_attributeValueFrom {g : Setting} (hg : g.IsLegal) (quote : Char) (fuel : Nat)
    {read : List ValuePart} (hread : AreLegalParts read) :
    Yields AreLegalParts (attributeValueFrom g quote read fuel) := by
  induction fuel generalizing read with
  | zero => exact yields_stop
  | succ fuel ih =>
    unfold attributeValueFrom
    refine (yields_takeWhile fun c hc => (Bool.and_eq_true_iff.mp hc).2).bind fun plain hplain => ?_
    have hadded : AreLegalParts (addText (attributeBlanks plain) read) :=
      isLegal_addText (all_attributeBlanks hplain) hread
    -- A reference to a character, and to an entity that stands for one, adds that character.
    have hcharacter : ∀ c, isXmlChar c = true →
        AreLegalParts (addText [c] (addText (attributeBlanks plain) read)) := by
      intro c hc
      refine isLegal_addText ?_ hadded
      rw [List.all_cons, hc]
      rfl
    refine yields_bind fun next => ?_
    split
    · refine yields_bind fun _ => yields_bind fun _ => yields_ite (yields_bind fun _ => ?_) ?_
      · exact yields_characterReference.bind fun c hc => ih (hcharacter c hc)
      · refine yields_bind fun n => ?_
        split
        · rename_i hpredefined
          exact ih (hcharacter _ (isXmlChar_of_predefined? hpredefined))
        · rename_i hentity
          refine (yields_expansion hg _ (hg.entity? hentity)).bind fun cs hcs => ih ?_
          exact List.forall_mem_cons.mpr ⟨(isLegalText_ofList cs).trans hcs, hadded⟩
        · exact yields_stop
        · exact yields_ite_stop (yields_bind fun _ => ih hadded)
    · refine yields_ite (yields_bind fun _ => yields_pure fun p hp => ?_) yields_stop
      exact hadded p (List.mem_reverse.mp hp)
    · exact yields_stop

/-- A value that is read between quotation marks has legal parts. -/
theorem yields_attributeValue {g : Setting} (hg : g.IsLegal) :
    Yields AreLegalParts (attributeValue g) := by
  have hnone : AreLegalParts [] := fun _ hp => nomatch hp
  unfold attributeValue
  refine yields_bind fun next => ?_
  split
  · refine yields_ite_stop (yields_bind fun _ => yields_bind fun _ => ?_)
    exact yields_attributeValueFrom hg _ _ hnone
  · exact yields_stop

/-- Blanks that are left out leave the other characters. -/
theorem mem_of_mem_withSingleBlanks {afterBlank : Bool} {cs : List Char} {c : Char}
    (h : c ∈ (withSingleBlanks afterBlank cs).1) : c ∈ cs := by
  fun_induction withSingleBlanks afterBlank cs with
  | case1 => exact h
  | case2 afterBlank cs rest ends heq ih =>
    rw [heq] at ih
    dsimp only at h
    split at h
    · exact List.mem_cons_of_mem _ (ih h)
    · rcases List.mem_cons.mp h with rfl | h
      · exact List.mem_cons_self
      · exact List.mem_cons_of_mem _ (ih h)
  | case3 afterBlank d cs _ rest ends heq ih =>
    rw [heq] at ih
    rcases List.mem_cons.mp h with rfl | h
    · exact List.mem_cons_self
    · exact List.mem_cons_of_mem _ (ih h)

/-- White space is left out of a value, and nothing is put in. -/
theorem areLegalParts_collapsed {parts : List ValuePart} (h : AreLegalParts parts)
    (afterBlank : Bool) : AreLegalParts (collapsed afterBlank parts) := by
  induction parts generalizing afterBlank with
  | nil => exact h
  | cons part parts ih =>
    obtain ⟨hpart, hparts⟩ := List.forall_mem_cons.mp h
    cases part with
    | reference n s => exact List.forall_mem_cons.mpr ⟨hpart, ih hparts false⟩
    | text s =>
      have hchars := List.all_eq_true.mp hpart
      have hsingle : ∀ c ∈ (withSingleBlanks afterBlank s.toList).1, isXmlChar c = true :=
        fun c hc => hchars c (mem_of_mem_withSingleBlanks hc)
      refine List.forall_mem_cons.mpr ⟨(isLegalText_ofList _).trans ?_, ih hparts _⟩
      rw [List.all_eq_true]
      intro c hc
      -- The last blank of a text may go, which leaves a part of it.
      split at hc
      · exact hsingle c ((List.take_sublist _ _).subset hc)
      · exact hsingle c hc

/-! ### Document types -/

/-- A legal declaration that is added, or left out, keeps the setting legal. -/
theorem yields_declare {g : Setting} (hg : g.IsLegal) {d : Declaration} (hd : d.isLegal = true) :
    Yields Setting.IsLegal (declare g d) := by
  unfold declare
  refine yields_ite (yields_pure hg) (yields_ite ?_ ?_)
  · split
    · exact yields_bind fun _ => yields_pure hg
    · exact yields_bind fun _ => yields_pure hg
    · exact yields_pure hg
  · exact yields_pure (List.forall_mem_append.mpr ⟨hg, List.forall_mem_singleton.mpr hd⟩)


/-- A step of which nothing has to be known may be left out. -/
theorem yields_ite_step {α : Type} {P : α → Prop} {c : Prop} [Decidable c] {r : Read Unit}
    {f : Unit → Read α} (hf : Yields P (f ())) :
    Yields P (if c then (do let x ← r; f x) else f ()) :=
  yields_ite (yields_bind fun _ => hf) hf

/-- What an entity may be besides a text is kept elsewhere. -/
theorem yields_entityDefinition {g : Setting} (hg : g.IsLegal) (parameter : Bool) :
    Yields DefinesLegal (entityDefinition g parameter) := by
  unfold entityDefinition
  refine yields_bind fun next => yields_ite (yields_entityLiteral hg) (yields_bind fun ids? => ?_)
  split
  · exact yields_stop
  · refine yields_ite_step (yields_ite (yields_pure ⟨fun _ _ => rfl, hg⟩) (yields_bind fun _ => ?_))
    refine yields_ite_step (yields_bind fun _ => yields_ite ?_ (yields_pure ⟨fun _ _ => rfl, hg⟩))
    exact yields_bind fun _ => yields_bind fun _ => yields_bind fun _ =>
      yields_pure ⟨fun _ _ => rfl, hg⟩

/-- A declared entity has a legal replacement. -/
theorem yields_entityDeclaration {g : Setting} (hg : g.IsLegal) :
    Yields Setting.IsLegal (entityDeclaration g) := by
  unfold entityDeclaration
  refine yields_bind fun _ => yields_bind fun next => ?_
  refine yields_ite (yields_bind fun _ => yields_bind fun _ => ?_) ?_
  all_goals
    refine yields_bind fun n => yields_bind fun _ => ?_
    refine (yields_entityDefinition hg _).bind fun x hx => yields_bind fun _ =>
      yields_bind fun _ => ?_
    exact yields_ite (yields_declare hx.2 (hx.1 _ _)) (yields_bind fun _ => yields_pure hx.2)

/-- An element declaration holds no value. -/
theorem yields_elementDeclaration {g : Setting} (hg : g.IsLegal) :
    Yields Setting.IsLegal (elementDeclaration g) := by
  unfold elementDeclaration
  exact yields_bind fun _ => yields_bind fun _ => yields_bind fun _ => yields_bind fun _ =>
    yields_bind fun _ => yields_bind fun _ => yields_declare hg rfl

/-- A default value is read like any other value, so a rule with it is legal. -/
theorem yields_presence {g : Setting} (hg : g.IsLegal) (t : AttributeType) :
    Yields (fun p => ∀ element name type, (Declaration.rule ⟨element, name, type, p⟩).isLegal = true)
      (presence g t) := by
  unfold presence
  refine yields_bind fun _ => yields_ite (yields_bind fun _ => yields_pure fun _ _ _ => rfl) ?_
  refine yields_bind fun _ => yields_ite (yields_bind fun _ => yields_pure fun _ _ _ => rfl) ?_
  refine yields_bind fun fixed => ?_
  have hvalue : Yields (fun p : Presence => ∀ element name type,
      (Declaration.rule ⟨element, name, type, p⟩).isLegal = true) (do
        let parts ← attributeValue g
        pure (.byDefault fixed (if t == .text then parts else collapsed true parts))) := by
    refine (yields_attributeValue hg).bind fun parts hparts => yields_pure fun _ _ _ => ?_
    refine List.all_eq_true.mpr ?_
    split
    · exact hparts
    · exact areLegalParts_collapsed hparts true
  exact yields_ite (yields_bind fun _ => yields_bind fun _ => hvalue) hvalue

/-- The rules of a declaration are added one a round. -/
theorem yields_rulesFrom (element : String) (fuel : Nat) {g : Setting} (hg : g.IsLegal) :
    Yields Setting.IsLegal (rulesFrom element g fuel) := by
  induction fuel generalizing g with
  | zero => exact yields_stop
  | succ fuel ih =>
    unfold rulesFrom
    refine yields_bind fun _ => yields_ite (yields_bind fun _ => yields_pure hg) ?_
    refine yields_bind fun name => yields_bind fun _ => yields_bind fun type =>
      yields_bind fun _ => ?_
    refine (yields_presence hg type).bind fun p hp => yields_bind fun _ => yields_ite_step ?_
    exact yields_bind fun _ => (yields_declare hg (hp _ _ _)).bind fun g hg => ih hg

/-- The attributes of an element are declared by legal rules. -/
theorem yields_attributeDeclaration {g : Setting} (hg : g.IsLegal) :
    Yields Setting.IsLegal (attributeDeclaration g) := by
  unfold attributeDeclaration
  exact yields_bind fun _ => yields_bind fun _ => yields_bind fun _ => yields_bind fun _ =>
    yields_rulesFrom _ _ hg

/-- The declaration of a format holds no value. -/
theorem yields_formatDeclaration {g : Setting} (hg : g.IsLegal) :
    Yields Setting.IsLegal (formatDeclaration g) := by
  unfold formatDeclaration
  refine yields_bind fun _ => yields_bind fun _ => yields_bind fun _ => yields_bind fun ids =>
    yields_bind fun _ => yields_bind fun _ => ?_
  split
  · exact yields_stop
  · exact yields_declare hg rfl

/-- Each kind of declaration keeps the setting legal. -/
theorem yields_markupDeclaration {g : Setting} (hg : g.IsLegal) :
    Yields Setting.IsLegal (markupDeclaration g) := by
  unfold markupDeclaration
  refine yields_bind fun _ => ?_
  split
  · exact yields_bind fun _ => yields_declare hg rfl
  · exact yields_bind fun _ => yields_declare hg rfl
  · exact yields_bind fun _ => yields_bind fun _ => yields_elementDeclaration hg
  · exact yields_bind fun _ => yields_bind fun _ => yields_entityDeclaration hg
  · exact yields_bind fun _ => yields_bind fun _ => yields_attributeDeclaration hg
  · exact yields_bind fun _ => yields_bind fun _ => yields_formatDeclaration hg
  · exact yields_bind fun _ => yields_stop
  · exact yields_stop

/-- Every round keeps the setting legal, and what is read from the text of a parameter entity does
too. -/
theorem yields_declarationsFrom (fuel : Nat) {g : Setting} (hg : g.IsLegal) :
    Yields Setting.IsLegal (declarationsFrom g fuel) := by
  induction fuel generalizing g with
  | zero => exact yields_stop
  | succ fuel ih =>
    unfold declarationsFrom
    refine yields_bind fun _ => yields_bind fun next => ?_
    split
    · exact yields_ite yields_stop (yields_pure hg)
    · exact yields_ite_stop (yields_bind fun _ => yields_pure hg)
    · refine yields_bind fun _ => yields_bind fun n => ?_
      -- A parameter entity brings in its own declarations, and a mark that there was one.
      dsimp only
      split
      · refine yields_ite_stop ?_
        have hinside : Setting.IsLegal { g with referred := true, opened := n :: g.opened } :=
          hg.congr rfl
        refine (yields_within (ih hinside) _).bind fun after hafter => ih ?_
        exact hafter.congr rfl
      · exact ih (hg.congr rfl)
      · exact yields_ite_stop (yields_bind fun _ => ih (hg.congr rfl))
    · exact (yields_markupDeclaration hg).bind fun g hg => ih hg

/-- The setting of a document is legal from the start, and what reads a document type keeps it so.
-/
theorem established_isLegal : Established Setting.IsLegal where
  initial _ _ := fun _ hd => nomatch hd
  doctype {g} hg := by
    unfold doctype
    refine yields_bind fun _ => yields_bind fun _ => yields_bind fun name => yields_bind fun _ =>
      yields_bind fun ids => yields_bind fun _ => yields_bind fun next => ?_
    refine Yields.bind (P := Setting.IsLegal) ?_ fun g' hg' => yields_bind fun _ => yields_pure hg'
    have helsewhere : Setting.IsLegal { g with elsewhere := ids.isSome } := hg.congr rfl
    refine yields_ite ?_ (yields_pure helsewhere)
    refine yields_bind fun _ => yields_bind fun _ => ?_
    exact (yields_declarationsFrom _ helsewhere).bind fun g' hg' => yields_bind fun _ =>
      yields_pure hg'

/-! ### Start tags -/

/-- Every attribute of a tag has the legal parts that were read for it. -/
theorem yields_attributesFrom {g : Setting} (hg : g.IsLegal) (rules : List AttributeRule)
    (fuel : Nat) {read : List WrittenAttribute} {declared : List Binding}
    (hread : ∀ a ∈ read, AreLegalParts a.parts) :
    Yields (fun x => ∀ a ∈ x.1, AreLegalParts a.parts)
      (attributesFrom g rules read declared fuel) := by
  induction fuel generalizing read declared with
  | zero => exact yields_stop
  | succ fuel ih =>
    unfold attributesFrom
    refine yields_bind fun _ => yields_bind fun _ => yields_bind fun _ =>
      yields_ite (yields_pure hread) (yields_bind fun name? => ?_)
    split
    · exact yields_stop
    · rename_i name
      refine yields_bind fun _ => yields_bind fun _ => yields_bind fun _ => ?_
      refine (yields_attributeValue hg).bind fun parts hparts => ?_
      have hvalue : AreLegalParts (if keepsBlanks rules name then parts else collapsed true parts) := by
        split
        · exact hparts
        · exact areLegalParts_collapsed hparts true
      generalize (if keepsBlanks rules name then parts else collapsed true parts) = value at hvalue
      have hadded : ∀ a ∈ read ++ [⟨name, value⟩], AreLegalParts a.parts :=
        List.forall_mem_append.mpr ⟨hread, List.forall_mem_singleton.mpr hvalue⟩
      refine yields_ite_step ?_
      -- A declaration is none of the attributes.
      refine Yields.bind (P := fun x : List WrittenAttribute × List Binding =>
        ∀ a ∈ x.1, AreLegalParts a.parts) ?_ fun x hx => ?_
      · refine yields_ite (yields_bind fun binding? => ?_) (yields_pure hadded)
        split
        · exact yields_ite_stop (yields_pure hread)
        · exact yields_pure hread
      · refine yields_bind fun _ => yields_bind fun _ => yields_ite (yields_pure hx) ?_
        exact yields_bind fun _ => ih hx

/-- The attributes that are added by default have legal values like those that were written. -/
theorem isLegal_withDefaults {rules : List AttributeRule} {attributes : List Attribute}
    (hrules : ∀ r ∈ rules, (Declaration.rule r).isLegal = true)
    (h : ∀ a ∈ attributes, a.isLegal = true) :
    ∀ a ∈ withDefaults rules attributes, a.isLegal = true := by
  unfold withDefaults
  induction rules generalizing attributes with
  | nil => exact h
  | cons r rules ih =>
    obtain ⟨hr, hrules⟩ := List.forall_mem_cons.mp hrules
    refine ih hrules ?_
    obtain ⟨element, name, type, presence⟩ := r
    cases presence with
    | required | implied => exact h
    | byDefault fixed parts =>
      dsimp only
      split
      · exact h
      · refine List.forall_mem_append.mpr ⟨h, List.forall_mem_singleton.mpr ?_⟩
        exact Attribute.isLegal_ofParts _ (List.all_eq_true.mp hr)

/-- The attributes of a start tag are legal, those by default included. -/
theorem yields_startTag_isLegal {g : Setting} (hg : g.IsLegal) (scope : Scope) (depth : Nat) :
    Yields (fun x => ∀ a ∈ x.2.attributes, a.isLegal = true) (startTag g scope depth) := by
  have hnone : ∀ a ∈ ([] : List WrittenAttribute), AreLegalParts a.parts :=
    fun _ ha => nomatch ha
  unfold startTag
  refine yields_bind fun _ => yields_bind fun written => ?_
  split
  · exact yields_stop
  · rename_i name
    refine yields_bind fun _ => yields_bind fun _ => ?_
    refine (yields_attributesFrom hg _ _ hnone).bind fun read hread => yields_ite ?_ ?_
    · refine Yields.bind (P := fun resolved : List (Written × Attribute × Bool) =>
        ∀ x ∈ resolved, x.2.1.isLegal = true) (yields_mapM fun a ha => ?_)
        fun resolved hresolved => yields_bind fun _ => yields_bind fun _ => ?_
      · exact yields_bind fun x =>
          yields_pure (Attribute.isLegal_ofParts _ (hread a ha))
      refine yields_ite_stop (yields_bind fun _ => yields_bind fun _ => yields_pure fun a ha => ?_)
      -- Resolving the name of an attribute leaves its value.
      obtain ⟨x, hx, rfl⟩ := List.mem_map.mp ha
      exact hresolved x hx
    · refine yields_bind fun _ => yields_bind fun _ => yields_pure ?_
      have hplain : ∀ a ∈ read.1.map fun a : WrittenAttribute =>
          Attribute.ofParts (.plain a.name.localName) a.parts, a.isLegal = true := by
        intro a ha
        obtain ⟨w, hw, rfl⟩ := List.mem_map.mp ha
        exact Attribute.isLegal_ofParts _ (hread w hw)
      dsimp only
      split
      · exact isLegal_withDefaults (hg.rulesOf _) hplain
      · exact hplain

/-- A tree has legal attributes if its tags have. -/
theorem carried_isLegal_attributes :
    Carried (fun _ tag => ∀ a ∈ tag.attributes, a.isLegal = true)
      fun _ n => ∀ a ∈ n.attributes, a.isLegal = true where
  text _ := fun _ ha => nomatch ha
  joined _ _ := fun _ ha => nomatch ha
  comment := fun _ ha => nomatch ha
  instruction := fun _ ha => nomatch ha
  reference := fun _ ha => nomatch ha
  element {_ tag children} htag hchildren := by
    refine List.forall_mem_append.mpr ⟨htag, ?_⟩
    rw [attributesList_eq_flatMap]
    intro a ha
    obtain ⟨n, hn, ha⟩ := List.mem_flatMap.mp ha
    exact hchildren n hn a ha

end Read

/-- A document may hold every attribute in a document that was read. -/
theorem Source.isLegal_attributes {d : Dialect} {source : Source} {document : Document}
    (h : source.read d = .ok document) : ∀ a ∈ document.root.attributes, a.isLegal = true :=
  Read.carried_root Read.carried_isLegal_attributes
    (fun _ hg scope depth => Read.yields_startTag_isLegal hg scope depth) Read.established_isLegal h

end AttrTemplates.Xml
