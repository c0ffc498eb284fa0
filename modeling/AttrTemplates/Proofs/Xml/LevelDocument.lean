import AttrTemplates.Proofs.Xml.Level
import AttrTemplates.Proofs.Xml.Unplaced

/-!
# `AttrTemplates.Proofs.Xml.LevelDocument`: documents read from different places

The lines of the nodes are all that depends on the place a document is read from. A document type has
no lines, so it is the same. Tags, comments and instructions have one each.

* `contentAbreast` is the induction over the readers of content, on a lemma for each of them;
* `documentFrom_abreast`: the documents that are read behind two declarations are the same but for
  their lines, and for the version that was declared;
* `wholeDocument_same` says so of whole documents.
-/

set_option autoImplicit false

namespace AttrTemplates.Xml

namespace Read

/-! ### Document types -/

/-- A literal is what stands between two equal quotation marks, with a check of its characters. -/
theorem blind_literalOf (allowed : Char → Bool) : Blind (literalOf allowed) := by
  unfold literalOf
  refine blind_peek.bind fun next => ?_
  split
  · refine blind_ite_stop ((blind_skip 1).bind fun _ => (blind_takeWhile _).bind fun _ =>
      blind_peek.bind fun _ => ?_)
    exact blind_ite_stop ((blind_skip 1).bind fun _ => blind_pure _)
  · exact blind_stop

/-- The identifiers of an external subset are literals after their key words. -/
theorem blind_externalId (needed : Bool) : Blind (externalId needed) := by
  unfold externalId
  refine (blind_looksAt "SYSTEM").bind fun _ => blind_ite ?_ ?_
  · exact (blind_skip 6).bind fun _ => blind_spaced.bind fun _ =>
      (blind_literalOf _).bind fun _ => blind_pure _
  · refine (blind_looksAt "PUBLIC").bind fun _ => blind_ite ?_ (blind_pure none)
    refine (blind_skip 6).bind fun _ => blind_spaced.bind fun _ => (blind_literalOf _).bind fun _ =>
      blind_blanks.bind fun _ => blind_peek.bind fun _ => blind_ite_stop ?_
    exact blind_ite ((blind_literalOf _).bind fun _ => blind_pure _) (blind_pure _)

/-- A colon in such a name is objected to in both cases or in neither. -/
theorem blind_plainName (d : Dialect) : Blind (plainName d) := by
  unfold plainName
  exact blind_someName.bind fun _ => blind_ite_step blind_object (blind_pure _)

/-- The replacement of an entity is made from its literal and the entities declared before. -/
theorem blind_entityLiteral (g : Setting) : Blind (entityLiteral g) := by
  unfold entityLiteral
  refine blind_peek.bind fun next => ?_
  split
  · refine blind_skipUncounted.bind fun _ => blind_rest.bind fun _ =>
      (blind_skipBytes _).bind fun _ => blind_peek.bind fun _ => blind_ite_stop ?_
    split
    · exact blind_stop
    · exact blind_ite_step blind_notice ((blind_skip 1).bind fun _ => blind_pure _)
  · exact blind_stop

/-- A declaration is weighed against the setting, which is shared. -/
theorem blind_declare (g : Setting) (d : Declaration) : Blind (declare g d) := by
  unfold declare
  refine blind_ite (blind_pure g) (blind_ite ?_ (blind_pure _))
  split
  · exact blind_object.bind fun _ => blind_pure g
  · exact blind_notice.bind fun _ => blind_pure g
  · exact blind_pure g

/-- An entity has a literal or identifiers, according to the character that comes next. -/
theorem blind_entityDefinition (g : Setting) (parameter : Bool) :
    Blind (entityDefinition g parameter) := by
  unfold entityDefinition
  refine blind_peek.bind fun next => blind_ite (blind_entityLiteral g) ?_
  refine (blind_externalId true).bind fun ids? => ?_
  split
  · exact blind_stop
  · refine blind_ite_step blind_object (blind_ite (blind_pure _) (blind_peek.bind fun _ => ?_))
    refine blind_ite_step blind_spaced ((blind_looksAt "NDATA").bind fun _ => ?_)
    refine blind_ite ?_ (blind_pure _)
    exact (blind_skip 5).bind fun _ => blind_spaced.bind fun _ => blind_someName.bind fun _ =>
      blind_pure _

/-- The per cent sign that makes a parameter entity is looked for in the text. -/
theorem blind_entityDeclaration (g : Setting) : Blind (entityDeclaration g) := by
  unfold entityDeclaration
  refine blind_spaced.bind fun _ => blind_peek.bind fun next => ?_
  refine blind_ite ((blind_skip 1).bind fun _ => blind_spaced.bind fun _ => ?_) ?_
  all_goals
    refine (blind_plainName _).bind fun n => blind_spaced.bind fun _ =>
      (blind_entityDefinition g _).bind fun x => blind_blanks.bind fun _ =>
        (blind_expect ">").bind fun _ => ?_
    exact blind_ite (blind_declare _ _) (blind_notice.bind fun _ => blind_pure _)

/-- The mark for how often a part may stand is one character of the text. -/
theorem blind_times : Blind times := by
  unfold times
  refine blind_peek.bind fun next => ?_
  split
  · exact (blind_skip 1).bind fun _ => blind_pure _
  · exact (blind_skip 1).bind fun _ => blind_pure _
  · exact (blind_skip 1).bind fun _ => blind_pure _
  · exact blind_pure _

/-- The names of mixed content are read one a round until the bracket closes. -/
theorem blind_mixedNames (read : List String) (fuel : Nat) : Blind (mixedNames read fuel) := by
  induction fuel generalizing read with
  | zero => exact blind_stop
  | succ fuel ih =>
    unfold mixedNames
    refine blind_peek.bind fun _ => blind_ite ?_ (blind_pure _)
    exact (blind_skip 1).bind fun _ => blind_blanks.bind fun _ => blind_someName.bind fun _ =>
      blind_blanks.bind fun _ => ih _

/-- A model of mixed content is its names and the closing bracket. -/
theorem blind_mixedModel : Blind mixedModel := by
  unfold mixedModel
  refine (blind_skip 7).bind fun _ => blind_blanks.bind fun _ => blind_peek.bind fun _ =>
    blind_ite ?_ ?_
  · exact (blind_skip 1).bind fun _ => blind_peek.bind fun _ =>
      blind_ite_step (blind_skip 1) (blind_pure _)
  · exact blind_rest.bind fun _ => (blind_mixedNames _ _).bind fun _ =>
      (blind_expect ")*").bind fun _ => blind_pure _

/-- The parts of a content model are read by each other, with less fuel each time. -/
theorem blind_particle_and_group (d : Dialect) (fuel : Nat) :
    (∀ depth, Blind (particle d depth fuel)) ∧ (∀ depth, Blind (group d depth fuel)) ∧
      ∀ depth alternatives read, Blind (partsFrom d depth alternatives read fuel) := by
  -- By induction on the fuel, for all three at once.
  induction fuel with
  | zero =>
    refine ⟨fun depth => ?_, fun depth => ?_, fun depth alternatives read => ?_⟩
    · unfold particle
      exact blind_stop
    · unfold group
      exact blind_stop
    · unfold partsFrom
      exact blind_stop
  | succ fuel ih =>
    obtain ⟨hparticle, hgroup, hparts⟩ := ih
    refine ⟨fun depth => ?_, fun depth => ?_, fun depth alternatives read => ?_⟩
    · unfold particle
      refine blind_peek.bind fun _ => blind_ite ((blind_skip 1).bind fun _ => hgroup _) ?_
      exact blind_someName.bind fun _ => blind_times.bind fun _ => blind_pure _
    · unfold group
      refine blind_ite_stop (blind_blanks.bind fun _ => (hparticle _).bind fun _ =>
        (hparts _ _ _).bind fun _ => ?_)
      exact (blind_skip 1).bind fun _ => blind_times.bind fun _ => blind_pure _
    · unfold partsFrom
      refine blind_blanks.bind fun _ => blind_peek.bind fun next => ?_
      split
      · exact blind_pure _
      · refine blind_ite_stop ((blind_skip 1).bind fun _ => blind_blanks.bind fun _ => ?_)
        exact (hparticle _).bind fun _ => hparts _ _ _
      · exact blind_stop

/-- What a content model begins with decides between its kinds. -/
theorem blind_contentModel (d : Dialect) : Blind (contentModel d) := by
  unfold contentModel
  refine (blind_looksAt "EMPTY").bind fun _ =>
    blind_ite ((blind_skip 5).bind fun _ => blind_pure _) ?_
  refine (blind_looksAt "ANY").bind fun _ =>
    blind_ite ((blind_skip 3).bind fun _ => blind_pure _) ?_
  refine (blind_expect "(").bind fun _ => blind_blanks.bind fun _ =>
    (blind_looksAt "#PCDATA").bind fun _ => blind_ite blind_mixedModel ?_
  exact blind_rest.bind fun _ => ((blind_particle_and_group d _).2.1 1).bind fun _ => blind_pure _

/-- An element declaration is a name and a content model. -/
theorem blind_elementDeclaration (g : Setting) : Blind (elementDeclaration g) := by
  unfold elementDeclaration
  exact blind_spaced.bind fun _ => blind_someName.bind fun _ => blind_spaced.bind fun _ =>
    (blind_contentModel _).bind fun _ => blind_blanks.bind fun _ => (blind_expect ">").bind fun _ =>
      blind_declare _ _

/-- The items of a list are read one a round, and reading them is blind if reading one is. -/
theorem blind_itemsFrom {item : Read String} (hitem : Blind item) (read : List String)
    (fuel : Nat) : Blind (itemsFrom item read fuel) := by
  induction fuel generalizing read with
  | zero => exact blind_stop
  | succ fuel ih =>
    unfold itemsFrom
    refine (blind_skip 1).bind fun _ => blind_blanks.bind fun _ => hitem.bind fun _ =>
      blind_ite_step blind_object (blind_blanks.bind fun _ => blind_peek.bind fun _ => ?_)
    exact blind_ite (ih _) ((blind_expect ")").bind fun _ => blind_pure _)

/-- A list in brackets is blind if the reader of its items is. -/
theorem blind_enumeration {item : Read String} (hitem : Blind item) :
    Blind (enumeration item) := by
  unfold enumeration
  exact blind_peek.bind fun _ => blind_ite_stop (blind_rest.bind fun _ =>
    blind_itemsFrom hitem _ _)

/-- A token is a run of the characters that names have. -/
theorem blind_nameToken : Blind nameToken := by
  unfold nameToken
  exact (blind_takeWhile _).bind fun _ => blind_ite_stop (blind_pure _)

/-- The key word that comes next decides the type, and a type with a list reads it. -/
theorem blind_attributeType : Blind attributeType := by
  unfold attributeType
  refine blind_rest.bind fun cs => ?_
  split
  · exact (blind_skip _).bind fun _ => blind_pure _
  · refine (blind_looksAt "NOTATION").bind fun _ => blind_ite ?_ ?_
    · exact (blind_skip 8).bind fun _ => blind_spaced.bind fun _ =>
        (blind_enumeration blind_someName).bind fun _ => blind_pure _
    · exact (blind_enumeration blind_nameToken).bind fun _ => blind_pure _

/-- The default of an attribute is a key word or a value that is read with the shared setting. -/
theorem blind_presence (g : Setting) (t : AttributeType) : Blind (presence g t) := by
  unfold presence
  refine (blind_looksAt "#REQUIRED").bind fun _ =>
    blind_ite ((blind_skip 9).bind fun _ => blind_pure _) ?_
  refine (blind_looksAt "#IMPLIED").bind fun _ =>
    blind_ite ((blind_skip 8).bind fun _ => blind_pure _) ?_
  refine (blind_looksAt "#FIXED").bind fun fixed => ?_
  have hvalue : Blind (do
      let parts ← attributeValue g
      pure (.byDefault fixed (if t == .text then parts else collapsed true parts)) : Read Presence) :=
    (blind_attributeValue g).bind fun _ => blind_pure _
  exact blind_ite ((blind_skip 6).bind fun _ => blind_spaced.bind fun _ => hvalue) hvalue

/-- A rule is checked against its own default, not against where it stands. -/
theorem blind_checkRule (g : Setting) (r : AttributeRule) : Blind (checkRule g r) := by
  unfold checkRule
  refine blind_ite_step blind_object ?_
  have hids : Blind (do
      let others := rulesOf g.declarations r.element
      if r.type == .id && others.any (fun o => o.type == .id && o.name != r.name) then object
      : Read Unit) :=
    blind_ite blind_object (blind_pure ())
  split
  · exact blind_ite_step blind_object hids
  · exact hids

/-- The rules of one declaration are read one a round. -/
theorem blind_rulesFrom (element : String) (g : Setting) (fuel : Nat) :
    Blind (rulesFrom element g fuel) := by
  induction fuel generalizing g with
  | zero => exact blind_stop
  | succ fuel ih =>
    unfold rulesFrom
    refine blind_peek.bind fun _ => blind_ite ((blind_skip 1).bind fun _ => blind_pure g) ?_
    refine blind_someName.bind fun _ => blind_spaced.bind fun _ => blind_attributeType.bind fun t =>
      blind_spaced.bind fun _ => (blind_presence g t).bind fun _ => blind_peek.bind fun _ => ?_
    refine blind_ite_step blind_spaced ((blind_checkRule g _).bind fun _ => ?_)
    exact (blind_declare g _).bind fun _ => ih _

/-- An attribute declaration is the name of an element and rules. -/
theorem blind_attributeDeclaration (g : Setting) : Blind (attributeDeclaration g) := by
  unfold attributeDeclaration
  exact blind_spaced.bind fun _ => blind_someName.bind fun _ => blind_blanks.bind fun _ =>
    blind_rest.bind fun _ => blind_rulesFrom _ g _

/-- A declaration of a format is a name and identifiers. -/
theorem blind_formatDeclaration (g : Setting) : Blind (formatDeclaration g) := by
  unfold formatDeclaration
  refine blind_spaced.bind fun _ => (blind_plainName _).bind fun _ => blind_spaced.bind fun _ =>
    (blind_externalId false).bind fun ids => blind_blanks.bind fun _ =>
      (blind_expect ">").bind fun _ => ?_
  split
  · exact blind_stop
  · exact blind_declare _ _

/-- What follows the opening mark decides which declaration is read. -/
theorem blind_markupDeclaration (g : Setting) : Blind (markupDeclaration g) := by
  unfold markupDeclaration
  refine blind_rest.bind fun cs => ?_
  split
  · exact (blind_instructionText _).bind fun _ => blind_declare _ _
  · exact blind_commentText.bind fun _ => blind_declare _ _
  · exact (blind_skip 2).bind fun _ => (blind_expect _).bind fun _ => blind_elementDeclaration g
  · exact (blind_skip 2).bind fun _ => (blind_expect _).bind fun _ => blind_entityDeclaration g
  · exact (blind_skip 2).bind fun _ => (blind_expect _).bind fun _ => blind_attributeDeclaration g
  · exact (blind_skip 2).bind fun _ => (blind_expect _).bind fun _ => blind_formatDeclaration g
  · exact (blind_skip 2).bind fun _ => blind_stop
  · exact blind_stop

/-- Every round reads a declaration, an instruction, a comment or a reference and carries the
setting on. -/
theorem blind_declarationsFrom (g : Setting) (fuel : Nat) : Blind (declarationsFrom g fuel) := by
  induction fuel generalizing g with
  | zero => exact blind_stop
  | succ fuel ih =>
    unfold declarationsFrom
    refine blind_blanks.bind fun _ => blind_peek.bind fun next => ?_
    split
    · exact blind_ite blind_stop (blind_pure g)
    · exact blind_ite_stop ((blind_skip 1).bind fun _ => blind_pure g)
    · refine (blind_skip 1).bind fun _ => blind_entityName.bind fun n => ?_
      dsimp only
      split
      · exact blind_ite_stop ((ih _).within _ |>.bind fun _ => ih _)
      · exact ih _
      · exact blind_ite_stop (blind_notice.bind fun _ => ih _)
    · exact (blind_markupDeclaration g).bind fun _ => ih _

/-- A document type is a name, identifiers and declarations. -/
theorem blind_doctype (g : Setting) : Blind (doctype g) := by
  unfold doctype
  refine (blind_skip 9).bind fun _ => blind_spaced.bind fun _ => blind_someName.bind fun name =>
    blind_blanks.bind fun _ => (blind_externalId true).bind fun ids => blind_blanks.bind fun _ =>
      blind_peek.bind fun next => ?_
  refine Blind.bind ?_ fun _ => (blind_expect ">").bind fun _ => blind_pure _
  refine blind_ite ((blind_skip 1).bind fun _ => blind_rest.bind fun _ => ?_) (blind_pure _)
  exact (blind_declarationsFrom _ _).bind fun _ => blind_blanks.bind fun _ => blind_pure _

/-! ### Tags -/

/-- Whether an attribute declares a prefix depends on its name and value. -/
theorem blind_declaration (a : WrittenAttribute) : Blind (declaration a) := by
  unfold declaration
  dsimp only
  split
  · have hrest : Blind (if a.value == xmlNamespace || a.value == xmlnsNamespace then do
          object
          pure none
        else pure (some ⟨none, a.value⟩) : Read (Option Binding)) :=
      blind_ite (blind_object.bind fun _ => blind_pure none) (blind_pure _)
    refine blind_ite ?_ hrest
    split
    · exact hrest
    · exact blind_notice.bind fun _ => hrest
    · exact blind_object.bind fun _ => hrest
  · refine blind_ite (blind_ite_step blind_object (blind_pure none)) ?_
    refine blind_ite (blind_object.bind fun _ => blind_pure none) ?_
    exact blind_ite_step blind_object (blind_pure _)

/-- The values of the attribute for blanks are two words. -/
theorem blind_checkSpace (a : WrittenAttribute) : Blind (checkSpace a) := by
  unfold checkSpace
  exact blind_ite blind_notice (blind_pure ())

/-- The attributes of a tag are read one a round, with the names read so far as they are. -/
theorem blind_attributesFrom (g : Setting) (rules : List AttributeRule)
    (read : List WrittenAttribute) (declared : List Binding) (fuel : Nat) :
    Blind (attributesFrom g rules read declared fuel) := by
  induction fuel generalizing read declared with
  | zero => exact blind_stop
  | succ fuel ih =>
    unfold attributesFrom
    refine blind_peek.bind fun _ => (blind_looksAt "/>").bind fun _ => blind_peek.bind fun _ =>
      blind_ite (blind_pure _) ((blind_written? _).bind fun name? => ?_)
    split
    · exact blind_stop
    · refine blind_blanks.bind fun _ => (blind_expect "=").bind fun _ => blind_blanks.bind fun _ =>
        (blind_attributeValue g).bind fun parts => blind_ite_step (blind_checkSpace _) ?_
      refine Blind.bind ?_ fun x => blind_peek.bind fun _ => (blind_looksAt "/>").bind fun _ => ?_
      · refine blind_ite ((blind_declaration _).bind fun binding? => ?_) (blind_pure _)
        split
        · exact blind_ite_stop (blind_pure _)
        · exact blind_pure _
      · exact blind_ite (blind_pure _) (blind_spaced.bind fun _ => ih _ _)

/-- A prefix is looked up in the scope, which is shared. -/
theorem blind_resolve (scope : Scope) (isAttribute : Bool) (w : Written) :
    Blind (resolve scope isAttribute w) := by
  unfold resolve
  split
  · exact blind_pure _
  · exact blind_object.bind fun _ => blind_pure _

/-- Names are compared with one another, in the order in which they were read. -/
theorem blind_checkDistinct (seen ns : List Name) : Blind (checkDistinct seen ns) := by
  induction ns generalizing seen with
  | nil => exact blind_pure ()
  | cons n ns ih =>
    unfold checkDistinct
    split
    · exact ih _
    · exact blind_ite_stop (blind_object.bind fun _ => ih _)

/-- An identifier that is met again is noted in both cases, since the same have been found so far.
-/
theorem blind_checkIds (rules : List AttributeRule) (attributes : List (Written × Attribute)) :
    Blind (checkIds rules attributes) := by
  induction attributes with
  | nil => exact blind_pure ()
  | cons x attributes ih =>
    obtain ⟨w, a⟩ := x
    unfold checkIds
    refine blind_ite_step blind_object (blind_ite (blind_ite ?_ ih) ih)
    refine abreast_findings_bind fun f f' h => ?_
    rw [Findings.ids_eq h]
    refine blind_ite (blind_object.bind fun _ => ih) (Blind.bind ?_ fun _ => ih)
    refine blind_remember fun g g' h => ?_
    obtain ⟨hobjection, hnoticed, hids, hchecked⟩ := Findings.mk.inj h
    exact Findings.mk.injEq .. ▸ ⟨hobjection, hnoticed, congrArg (· ++ [a.value]) hids, hchecked⟩

/-! ### Nodes -/

/-- A comment keeps the line it began on, so that two of them agree but for lines. -/
theorem abreast_comment : Abreast (fun m n => m.unplaced = n.unplaced) comment comment := by
  unfold comment
  exact blind_commentText.bind_abreast fun _ => abreast_line.bind fun _ _ _ => abreast_pure rfl

/-- An instruction keeps its line as well. -/
theorem abreast_instruction (d : Dialect) :
    Abreast (fun m n => m.unplaced = n.unplaced) (instruction d) (instruction d) := by
  unfold instruction
  exact (blind_instructionText d).bind_abreast fun _ => abreast_line.bind fun _ _ _ =>
    abreast_pure rfl

/-- An element that is opened agrees but for its line, and whether it is closed at once agrees in
full. -/
theorem abreast_startTag (g : Setting) (scope : Scope) (depth : Nat) :
    Abreast (fun x y => x.1 = y.1 ∧ x.2.unplaced = y.2.unplaced) (startTag g scope depth)
      (startTag g scope depth) := by
  unfold startTag
  refine (blind_skip 1).bind_abreast fun _ => (blind_written? _).bind_abreast fun written => ?_
  cases written with
  | none => exact abreast_stop
  | some name =>
    refine blind_blanks.bind_abreast fun _ => blind_rest.bind_abreast fun _ =>
      (blind_attributesFrom g _ _ _ _).bind_abreast fun x => abreast_ite ?_ ?_
    · refine (blind_mapM (fun a => ?_) _).bind_abreast fun resolved =>
        (blind_checkDistinct _ _).bind_abreast fun _ => ?_
      · exact (blind_resolve _ _ _).bind fun _ => blind_pure _
      refine (blind_resolve _ _ _).bind_abreast fun _ => abreast_ite_stop ?_
      exact (blind_checkIds _ _).bind_abreast fun _ => abreast_line.bind fun _ _ _ =>
        abreast_pure ⟨rfl, rfl⟩
    · exact (blind_checkDistinct _ _).bind_abreast fun _ => abreast_line.bind fun _ _ _ =>
        abreast_pure ⟨rfl, rfl⟩

/-- An end tag has to name the element that was opened. -/
theorem blind_endTag (d : Dialect) (name : Written) : Blind (endTag d name) := by
  unfold endTag
  refine (blind_skip 2).bind fun _ => blind_rest.bind fun _ => Blind.bind ?_ fun same => ?_
  · refine blind_ite ((blind_skipBytes _).bind fun _ => blind_pure _) (blind_ite ?_ ?_)
    · exact (blind_written? d).bind fun _ => blind_pure _
    · exact blind_name?.bind fun _ => blind_pure _
  · exact blind_blanks.bind fun _ => (blind_expect ">").bind fun _ =>
      blind_ite blind_stop (blind_pure ())

/-- Joining text to a text node before it does not look at lines. -/
theorem pushNode_unplaced (read : List Node) (n : Node) :
    unplacedList (pushNode read n) = pushNode (unplacedList read) n.unplaced := by
  cases n with
  | text t =>
    cases read with
    | nil => rfl
    | cons m read => cases m <;> rfl
  | element | comment | instruction | reference => rfl

/-- What is read of content with some fuel depends on the place in its lines only. A reference stays
what it is, whatever is found in the text of its entity. -/
structure ContentAbreast (fuel : Nat) : Prop where
  abreast_content : ∀ g scope depth {read read' : List Node}, unplacedList read = unplacedList read' →
    Abreast (fun ms ns => unplacedList ms = unplacedList ns) (content g scope depth read fuel)
      (content g scope depth read' fuel)
  abreast_element : ∀ g scope depth, Abreast (fun m n => m.unplaced = n.unplaced)
    (element g scope depth fuel) (element g scope depth fuel)
  blind_reference : ∀ g depth, Blind (contentReference g depth fuel)

namespace ContentAbreast

variable {fuel : Nat} (h : ContentAbreast fuel) (g : Setting) (scope : Scope) (depth : Nat)
include h

/-- With one more round for content: what comes next decides what is read, and each such reader is
blind or abreast, or is what the induction has as its hypothesis. -/
theorem content_succ {read read' : List Node} (hread : unplacedList read = unplacedList read') :
    Abreast (fun ms ns => unplacedList ms = unplacedList ns) (content g scope depth read (fuel + 1))
      (content g scope depth read' (fuel + 1)) := by
  have hpush : ∀ m n : Node, m.unplaced = n.unplaced →
      Abreast (fun ms ns => unplacedList ms = unplacedList ns)
        (content g scope depth (pushNode read m) fuel)
        (content g scope depth (pushNode read' n) fuel) := by
    intro m n hmn
    refine h.abreast_content g scope depth ?_
    rw [pushNode_unplaced, pushNode_unplaced, hread, hmn]
  have hreverse : unplacedList read.reverse = unplacedList read'.reverse := by
    rw [unplacedList_eq_map, unplacedList_eq_map, List.map_reverse, List.map_reverse,
      ← unplacedList_eq_map, ← unplacedList_eq_map, hread]
  -- Both go the same way: where it branches depends on the characters alone, never on their places.
  unfold content
  refine blind_peek.bind_abreast fun next => ?_
  split
  · exact abreast_pure hreverse
  · refine (blind_looksAt "</").bind_abreast fun _ => abreast_ite (abreast_pure hreverse) ?_
    refine (blind_looksAt "<?").bind_abreast fun _ => ?_
    refine (blind_looksAt "<![CDATA[").bind_abreast fun _ => ?_
    refine (blind_looksAt "<!--").bind_abreast fun _ => ?_
    refine abreast_ite ((abreast_instruction _).bind hpush) ?_
    refine abreast_ite (blind_literal.bind_abreast fun n => hpush n n rfl) ?_
    exact abreast_ite (abreast_comment.bind hpush) ((h.abreast_element g scope depth).bind hpush)
  · exact (h.blind_reference g depth).bind_abreast fun n => hpush n n rfl
  · exact blind_rest.bind_abreast fun _ => (blind_characters _ _).bind_abreast fun _ =>
      hpush _ _ rfl

/-- With one more round for an element: its tag, then its content and the end tag. -/
theorem element_succ : Abreast (fun m n => m.unplaced = n.unplaced)
    (element g scope depth (fuel + 1)) (element g scope depth (fuel + 1)) := by
  unfold element
  refine (abreast_startTag g scope depth).bind ?_
  rintro ⟨name, tag⟩ ⟨_, tag'⟩ ⟨rfl, htag : tag.unplaced = tag'.unplaced⟩
  have hframe : tag.frame = tag'.frame := by
    rw [← tag.frame_unplaced, htag, tag'.frame_unplaced]
  refine (blind_looksAt "/>").bind_abreast fun _ => abreast_ite ?_ ?_
  · refine (blind_skip 2).bind_abreast fun _ => abreast_pure ?_
    rw [Node.unplaced, Node.unplaced, htag]
  · refine (blind_expect ">").bind_abreast fun _ => ?_
    dsimp only
    rw [hframe]
    refine (h.abreast_content g _ _ rfl).bind fun ms ns hchildren => ?_
    refine blind_peek.bind_abreast fun _ => abreast_ite_stop ?_
    refine (blind_endTag _ _).bind_abreast fun _ => abreast_pure ?_
    rw [Node.unplaced, Node.unplaced, htag, hchildren]

/-- With one more round for a reference in content: the replacement is read as content of its own.
-/
theorem reference_succ : Blind (contentReference g depth (fuel + 1)) := by
  unfold contentReference
  refine (blind_skip 1).bind fun _ => blind_peek.bind fun _ => blind_ite ?_ ?_
  · exact (blind_skip 1).bind fun _ => blind_characterReference.bind fun _ => blind_pure _
  · refine blind_entityName.bind fun n => ?_
    split
    · exact blind_pure _
    · refine blind_ite_stop (abreast_findings_bind fun f f' hf => ?_)
      rw [Findings.checked_eq hf]
      -- The text of the entity is only looked at for faults.
      have htext : Blind (do
          let _ ← content { g with opened := n :: g.opened } [] (depth + 1) [] fuel
          if (← peek) != none then stop) :=
        (h.abreast_content _ _ _ rfl).bind fun _ _ _ => blind_peek.bind fun _ =>
          blind_ite blind_stop (blind_pure ())
      refine blind_ite (blind_ite_stop ?_) (blind_pure _)
      refine (htext.within _).bind fun _ => Blind.bind ?_ fun _ => blind_pure _
      refine blind_remember fun f f' hf => ?_
      obtain ⟨hobjection, hnoticed, hids, hchecked⟩ := Findings.mk.inj hf
      exact Findings.mk.injEq .. ▸ ⟨hobjection, hnoticed, hids, congrArg (n :: ·) hchecked⟩
    · exact blind_pure _
    · exact blind_stop
    · exact blind_ite_stop (blind_notice.bind fun _ => blind_pure _)

end ContentAbreast

/-- Content, elements and references are read by each other, with less fuel each time. -/
theorem contentAbreast (fuel : Nat) : ContentAbreast fuel := by
  induction fuel with
  | zero =>
    refine ⟨fun g scope depth read read' _ => ?_, fun g scope depth => ?_, fun g depth => ?_⟩
    · unfold content
      exact abreast_stop
    · unfold element
      exact abreast_stop
    · unfold contentReference
      exact blind_stop
  | succ fuel ih =>
    exact ⟨fun g scope depth _ _ hread => ih.content_succ g scope depth hread,
      fun g scope depth => ih.element_succ g scope depth, fun g depth => ih.reference_succ g depth⟩

/-! ### Documents -/

/-- Around the document element stand comments, instructions and blanks, one a round. -/
theorem abreast_surroundings (d : Dialect) (fuel : Nat) {read read' : List Node}
    (hread : unplacedList read = unplacedList read') :
    Abreast (fun ms ns => unplacedList ms = unplacedList ns) (surroundings d read fuel)
      (surroundings d read' fuel) := by
  induction fuel generalizing read read' with
  | zero => exact abreast_stop
  | succ fuel ih =>
    have hadd : ∀ m n : Node, m.unplaced = n.unplaced →
        Abreast (fun ms ns => unplacedList ms = unplacedList ns)
          (surroundings d (read ++ [m]) fuel) (surroundings d (read' ++ [n]) fuel) := by
      intro m n hmn
      refine ih ?_
      rw [unplacedList_append, unplacedList_append, hread, unplacedList, unplacedList, hmn]
      rfl
    unfold surroundings
    refine blind_blanks.bind_abreast fun _ => (blind_looksAt "<?").bind_abreast fun _ => ?_
    refine abreast_ite ((abreast_instruction d).bind hadd) ?_
    refine (blind_looksAt "<!--").bind_abreast fun _ => ?_
    exact abreast_ite (abreast_comment.bind hadd) (abreast_pure hread)

/-- What is read behind a declaration depends neither on the place nor on the version. -/
theorem documentFrom_abreast (d : Dialect) (version version' : String) (standalone : Bool) :
    Abreast Document.SameTree (documentFrom d version standalone)
      (documentFrom d version' standalone) := by
  unfold documentFrom
  refine blind_rest.bind_abreast fun cs => ?_
  have hsurroundings : Abreast (fun ms ns => unplacedList ms = unplacedList ns)
      (surroundings d [] (cs.length + 1)) (surroundings d [] (cs.length + 1)) :=
    abreast_surroundings d _ rfl
  refine hsurroundings.bind fun opening opening' hopening => ?_
  refine Abreast.bind (R := fun x y => x.1 = y.1 ∧ x.2.1 = y.2.1 ∧
    unplacedList x.2.2 = unplacedList y.2.2) ?_ ?_
  · refine (blind_looksAt "<!DOCTYPE").bind_abreast fun _ => abreast_ite ?_
      (abreast_pure ⟨rfl, rfl, rfl⟩)
    exact (blind_doctype _).bind_abreast fun x => hsurroundings.bind fun heading heading' h =>
      abreast_pure ⟨rfl, rfl, h⟩
  rintro ⟨doctype?, g, heading⟩ ⟨_, _, heading'⟩ ⟨rfl, rfl, hheading⟩
  refine blind_peek.bind_abreast fun _ => abreast_ite_stop ?_
  refine ((contentAbreast _).abreast_element g [] 0).bind fun root root' hroot => ?_
  refine hsurroundings.bind fun closing closing' hclosing => ?_
  refine blind_peek.bind_abreast fun _ => abreast_ite_stop (abreast_pure ?_)
  -- Without document type all that comes before the root stands in front of the root.
  cases doctype? with
  | none => exact ⟨rfl, rfl, hopening, hroot, rfl, rfl, hclosing⟩
  | some t => exact ⟨hopening, rfl, hheading, hroot, rfl, rfl, hclosing⟩

end Read

/-! ### Whole documents -/

/-- Both documents can be read, and are the same but for lines and version, or neither can. -/
inductive SameDocument : Except Position Document → Except Position Document → Prop
  | read {d e : Document} : d.SameTree e → SameDocument (.ok d) (.ok e)
  | unread (p q : Position) : SameDocument (.error p) (.error q)

/-- What is read of two texts is the same if reading comes to level cursors behind what they declare. -/
theorem Read.wholeDocument_same {d : Dialect} {cs cs' : List Char} {version version' : String}
    {standalone : Bool} {c c' : Cursor}
    (h : document d (Cursor.start cs) = documentFrom d version standalone c)
    (h' : document d (Cursor.start cs') = documentFrom d version' standalone c')
    (hlevel : c.Level c') :
    SameDocument (wholeDocument d cs) (wholeDocument d cs') := by
  have hread := documentFrom_abreast d version version' standalone hlevel
  rw [← h, ← h'] at hread
  unfold wholeDocument all
  generalize document d (Cursor.start cs) = x at hread
  generalize document d (Cursor.start cs') = y at hread
  cases hread with
  | fails p q => exact .unread p q
  | @succeeds a b c c' hab hleft =>
    have hverdict := Findings.isSome_verdict hleft.findings
    dsimp only [bind, Except.bind, pure, Except.pure]
    -- An objection is one in both, and what it leads to is up to the dialect.
    cases hfirst : c.findings.verdict with
    | none =>
      rw [hfirst] at hverdict
      rw [Option.not_isSome_iff_eq_none.mp (Bool.eq_false_iff.mp hverdict.symm)]
      exact .read hab
    | some p =>
      rw [hfirst] at hverdict
      obtain ⟨q, hq⟩ := Option.isSome_iff_exists.mp hverdict.symm
      rw [hq]
      dsimp only
      split
      · exact .unread p q
      · exact .read hab

end AttrTemplates.Xml
