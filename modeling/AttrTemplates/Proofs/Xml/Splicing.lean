import Mathlib
import AttrTemplates.Proofs.Xml.Staged

/-!
# `AttrTemplates.Proofs.Xml.Splicing`: what splicing leaves in a parent

Text stands between nodes without a node of its own, so what comes into an element changes the text
of its neighbours, and a node that goes somewhere takes the text behind it along. The theorem says
that all of this comes out as one would write it down: content is a sequence of texts and nodes, and
splicing acts on the sequence.

* `Forest.splicing_in_order`: the content of an element after a child has been replaced or
  detached, or items have been appended.
* `Forest.splicing_out_of_order`: what it must leave out. A text that no document can hold is
  refused. Text that is appended in front of the last node goes behind it, and with it when the
  node itself is the next item.
* `replace_leaves`, `detach_leaves`, `appendItems_leaves` and `appendItems_leaves_child` are the
  parts of the theorem. Each begins with `exists_stage` and follows the edit step by step.
-/

set_option autoImplicit false

namespace AttrTemplates.Xml

open Constituent (letters merged nodes without)
open Xml.Part (outline spots allNumbers)
open Editing

/-- What splicing at a child `e` of an element `p` may put there: texts that a document can hold,
and nodes, each once, which stand in another tree, in the child, or are the child itself. -/
structure Forest.Takes (f : Forest) (p e : Nat) (items : List Filling) : Prop where
  legal : ∀ s, .text s ∈ items → isLegalText s = true
  distinct : (Filling.numbers items).Nodup
  exist : ∀ n ∈ Filling.numbers items, (f.node? n).isSome
  apart : ∀ n ∈ Filling.numbers items, Part.root? n f.parts ≠ Part.root? p f.parts ∨
    n ∈ Part.numbers (f.content e) ∨ n = e

/-- An edit succeeds and loses no node, and afterwards the content of a node reads like `cs`. -/
def Forest.Leaves (f : Forest) (edit : Editing Unit) (p : Nat) (cs : List Constituent) : Prop :=
  ∃ g, Gives edit f () g ∧ g.IsSound ∧ (allNumbers g.parts).Perm (allNumbers f.parts) ∧
    merged (outline (g.content p)) = merged cs

section

variable {f : Forest} {p e : Nat} {before after : List Part} {q : Part} {items : List Filling}

/-- At the end of all stages, the content reads as it should. -/
theorem Stage.leaves {path pending : List Nat} {tails : Nat → List Constituent}
    {cs ds : List Constituent} {edit : Editing Unit} {g : Forest} (hf : f.IsSound)
    (hgives : Gives edit f () g) (h : Stage f p path tails g cs pending)
    (hletters : letters cs = letters ds) : f.Leaves edit p ds :=
  ⟨g, hgives, h.isSound hf, h.same.1,
    Constituent.merged_eq_of_letters (by rw [h.content_eq, hletters])⟩

/-- A node that is in the forest has a spot, with the text behind it. -/
theorem tail_mem_spots {n : Nat} (h : (f.node? n).isSome) :
    (n, outline (f.tail n)) ∈ spots f.parts := by
  rw [Forest.node?, Option.isSome_map] at h
  obtain ⟨⟨q, after⟩, hfind⟩ := Option.isSome_iff_exists.mp h
  rw [Forest.tail, hfind]
  exact (Part.mem_spots_of_find? hfind).2

/-- A parent with a child is an element in its place. -/
theorem exists_placed (hf : f.IsSound) (hcontent : f.content p = before ++ q :: after) :
    ∃ path, Part.Placed f.parts p path (before ++ q :: after) := by
  obtain ⟨P, hP⟩ : ∃ P, f.node? p = some P := by
    cases hP : f.node? p with
    | none => simp [Forest.content, hP] at hcontent
    | some P => exact ⟨P, rfl⟩
  obtain ⟨⟨P, back⟩, hfind, rfl⟩ := Option.map_eq_some_iff.mp hP
  obtain ⟨⟨shape, content, rfl⟩, -⟩ := Part.mem_spots_of_find? hfind
  obtain rfl : content = before ++ q :: after := by
    simpa [Forest.content, hP, Part.content] using hcontent
  obtain ⟨path, front, hrow⟩ := Part.exists_row_of_find? hfind
  obtain ⟨tag, rfl⟩ : ∃ tag, shape = .element tag := by
    have helement := ((Part.fit_cons_node _ _ _ _).mp (hf.fit.find? hfind)).1 (by simp)
    cases shape <;> simp_all [Shape.isElement]
  exact ⟨path, hf.distinct, hf.fit, _, tag, hrow, by simp⟩

/-- What splicing may take does not hold the parent, and stands elsewhere than in its content. -/
theorem Forest.Takes.outside {path : List Nat} {shape : Shape} {inner : List Part}
    (hitems : f.Takes p e items)
    (hplaced : Part.Placed f.parts p path (before ++ .node e shape inner :: after)) :
    ∀ n ∈ Filling.numbers items, n ∉ p :: path ∧
      (n ≠ e → n ∉ nodes (outline before) ∧ n ∉ nodes (outline after)) := by
  intro n hn
  have hrow := hplaced.row
  have hapart := hrow.apart hplaced.distinct
  rcases hitems.apart n hn with hroot | hinner | rfl
  · -- A node of another tree stands neither around the content nor in it.
    obtain ⟨root, hroots⟩ := hrow.root? hplaced.distinct (by simp)
    have helse : ¬ (n ∈ p :: path ∨ n ∈ allNumbers (before ++ .node e shape inner :: after)) :=
      fun hmem => hroot ((hroots n hmem).trans (hroots p (.inl List.mem_cons_self)).symm)
    rw [not_or] at helse
    refine ⟨helse.1, fun _ => ⟨fun hmem => helse.2 ?_, fun hmem => helse.2 ?_⟩⟩
    · simp [Part.mem_allNumbers_of_nodes hmem]
    · simp [Part.mem_allNumbers_of_nodes hmem]
  · -- What is inside the child is not beside it, since a number stands in one place only.
    rw [Forest.content, Forest.node?, hplaced.find?_mid] at hinner
    have hinner : n ∈ allNumbers inner :=
      Part.mem_allNumbers_of_nodes (Part.numbers_eq_nodes inner ▸ hinner)
    obtain ⟨hbefore, hafter⟩ := Part.not_mem_around (hrow.nodup hplaced.distinct)
      (by simp [hinner] : n ∈ allNumbers [.node e shape inner])
    exact ⟨fun hpath => hapart n hpath (by simp [hinner]),
      fun _ => ⟨mt Part.mem_allNumbers_of_nodes hbefore, mt Part.mem_allNumbers_of_nodes hafter⟩⟩
  · -- The child itself is excepted by the statement.
    exact ⟨fun hpath => hapart n hpath (by simp), fun hne => absurd rfl hne⟩

/-- A child in its parent, with what splicing may take ready to come there. -/
theorem exists_stage (hf : f.IsSound) (hcontent : f.content p = before ++ q :: after)
    (hq : q.number? = some e) (hitems : f.Takes p e items) :
    ∃ path, Stage f p path (fun n => outline (f.tail n)) f
        (outline before ++ .node e :: outline after) (e :: Filling.numbers items) ∧
      f.parent? e = some p ∧ f.tail e = after.takeWhile Part.isText ∧ Part.Fit after ∧
      ∀ n ∈ e :: Filling.numbers items,
        n ∉ nodes (outline before) ∧ n ∉ nodes (outline after) := by
  obtain ⟨path, hplaced⟩ := exists_placed hf hcontent
  obtain ⟨shape, inner, rfl⟩ := Part.exists_of_number? hq
  have hrow := hplaced.row
  have hchild := hplaced.find?_mid
  have houtside := hitems.outside hplaced
  obtain ⟨hbefore, hafter⟩ := Part.not_mem_around (hrow.nodup hf.distinct)
    (by simp : e ∈ allNumbers [.node e shape inner])
  refine ⟨path, ⟨⟨_, hplaced, by simp⟩, ⟨.refl _, rfl⟩, ?_⟩, ?_, ?_, ?_, ?_⟩
  · intro n hn
    obtain rfl | hn := List.mem_cons.mp hn
    · exact ⟨fun hpath => hrow.apart hf.distinct n hpath (by simp),
        tail_mem_spots (by simp [Forest.node?, hchild])⟩
    · exact ⟨(houtside n hn).1, tail_mem_spots (hitems.exist n hn)⟩
  · rw [Forest.parent?, hrow.parent? hf.distinct (List.mem_append_right _ List.mem_cons_self)]
    rfl
  · rw [Forest.tail, hchild]
  · exact ((Part.fit_cons_node _ _ _ _).mp (hf.fit.find? hchild)).2.2
  · -- The child itself stands between the two parts, and what is new stands elsewhere.
    intro n hn
    by_cases hne : n = e
    · rw [hne]
      exact ⟨mt Part.mem_allNumbers_of_nodes hbefore, mt Part.mem_allNumbers_of_nodes hafter⟩
    · exact (houtside n (List.mem_of_ne_of_mem hne hn)).2 hne

/-- The last node of content is where text behind the content goes. -/
theorem endsAt_last {before cs : List Constituent} (h : before = [] ∨ nodes cs ≠ []) :
    Stage.EndsAt before cs (nodes cs).getLast? := by
  induction cs using List.reverseRecOn with
  | nil => exact .front (h.resolve_right (by simp)) (by simp)
  | append_singleton cs c ih =>
    cases c with
    | node n =>
      rw [Constituent.nodes_append, Constituent.nodes_cons_node, Constituent.nodes_nil,
        List.getLast?_concat]
      exact .node (by simp)
    | text s =>
      rw [Constituent.nodes_append, Constituent.nodes_cons_text, Constituent.nodes_nil,
        List.append_nil]
      exact (ih (by simpa using h)).text s

/-- The old tail of a node, as one text. -/
theorem tail_text {ts : List Part} (hfit : Part.Fit ts) :
    isLegalText ((Part.front? (ts.takeWhile Part.isText)).getD "") = true ∧
      letters [.text ((Part.front? (ts.takeWhile Part.isText)).getD "")]
        = letters ((outline ts).takeWhile Constituent.isText) := by
  refine ⟨hfit.split.1.front, ?_⟩
  have hfront := Part.letters_front (ts.takeWhile Part.isText)
  rw [List.takeWhile_idem, Part.outline_takeWhile_isText] at hfront
  simpa using hfront

/-- A text comes behind content unless it is empty. -/
theorem Stage.appendTail {start : Forest} {path pending : List Nat} {tails : Nat → List Constituent}
    {cs : List Constituent} {previous : Option Nat} {s : String} (behind : List Constituent)
    (hs : isLegalText s = true) (hends : Stage.EndsAt [] cs previous)
    (hbehind : behind.takeWhile Constituent.isText = [])
    (hprevious : ∀ m ∈ nodes cs, m ∉ pending)
    (h : Stage start p path tails f (cs ++ behind) pending) :
    ∃ g cs', Gives (if !s.isEmpty then Forest.appendText p previous s else pure ()) f () g ∧
      Stage start p path tails g (cs' ++ behind) pending ∧
      letters cs' = letters cs ++ letters [.text s] ∧ nodes cs' = nodes cs := by
  by_cases hempty : s.isEmpty
  · refine ⟨f, cs, by rw [hempty]; exact gives_pure _ f, h, ?_, rfl⟩
    simp_all
  · obtain ⟨g, cs', hgives, hstage, -, hletters, hnodes, -⟩ :=
      Stage.appendText [] behind hs hends hbehind hprevious h
    refine ⟨g, cs', ?_, hstage, hletters, hnodes⟩
    rw [if_pos (by simpa using hempty)]
    exact hgives

/-- The nodes before a child. -/
theorem before_child {front back : List Constituent} (hparent : f.parent? e = some p)
    (he : e ∉ nodes front) (hcontent : outline (f.content p) = front ++ .node e :: back) :
    (Part.numbers (f.content p)).takeWhile (· != e) = nodes front ∧
      f.previous? e = (nodes front).getLast? := by
  have hnumbers : (Part.numbers (f.content p)).takeWhile (· != e) = nodes front := by
    rw [Part.numbers_eq_nodes, hcontent, Constituent.nodes_append, Constituent.nodes_cons_node,
      List.takeWhile_append_of_pos, List.takeWhile_cons_of_neg, List.append_nil]
    · simp
    · intro n hn
      have hne : n ≠ e := fun heq => he (heq ▸ hn)
      simpa using hne
  refine ⟨hnumbers, ?_⟩
  rw [Forest.previous?, hparent]
  exact congrArg List.getLast? hnumbers

/-- The content of the parent once a child is replaced. -/
theorem replace_leaves (hf : f.IsSound) (hcontent : f.content p = before ++ q :: after)
    (hq : q.number? = some e) (hitems : f.Takes p e items) :
    f.Leaves (Forest.replace e items) p (outline before ++
      items.flatMap (Filling.expanded fun n => if n = e then [] else outline (f.tail n)) ++
      outline after) := by
  obtain ⟨path, hstage, hparent, htail, hfit, hapart⟩ := exists_stage hf hcontent hq hitems
  obtain ⟨hbefore, -⟩ := hapart e List.mem_cons_self
  obtain ⟨hlegal, hletters⟩ := tail_text hfit
  obtain ⟨hnumbers, hprevious⟩ := before_child hparent hbefore hstage.content_eq
  have hreleased := hstage.cut.release List.mem_cons_self
  rw [Constituent.without_mid (fun hmem => hbefore (Constituent.mem_nodes.mpr hmem)),
    List.dropWhile_idempotent] at hreleased
  have hnew : ∀ n ∈ Filling.numbers items,
      n ∉ nodes (outline before ++ (outline after).dropWhile Constituent.isText) := by
    intro n hn
    simpa using hapart n (List.mem_cons_of_mem e hn)
  -- The child is cut out, which leaves its text to be put behind the items in the end.
  obtain ⟨g, last, cs, hgives, hinserted, hends, hcs⟩ :=
    (hreleased.mono fun n hn => List.mem_cons_of_mem e hn).insertFrom items hitems.legal
      hitems.distinct (endsAt_last (.inl rfl)) (takeWhile_dropWhile _ _) hnew
  obtain ⟨g', cs', hgives', hreplaced, hcs', -⟩ :=
    hinserted.appendTail _ hlegal hends (takeWhile_dropWhile _ _) (by simp)
  refine hreplaced.leaves hf ?_ ?_
  · refine (gives_get f).bind ?_
    rw [hparent]
    refine (gives_modify _ f).bind ((gives_modify _ _).bind ?_)
    rw [hprevious, hnumbers, htail]
    refine hgives.bind ?_
    exact hgives'
  · conv_rhs =>
      rw [← List.takeWhile_append_dropWhile (p := Constituent.isText) (l := outline after)]
    simp only [Constituent.letters_append, hcs', hcs, hletters, List.append_assoc]

/-- The content of the parent once a child is taken out. -/
theorem detach_leaves (hf : f.IsSound) (hcontent : f.content p = before ++ q :: after)
    (hq : q.number? = some e) :
    f.Leaves (Forest.detach e) p (outline before ++ outline after) := by
  -- A replacement without items, but the text of the child is saved before the child goes.
  have hnone : f.Takes p e [] := ⟨by simp, .nil, by simp, by simp⟩
  obtain ⟨path, hstage, hparent, htail, hfit, hapart⟩ := exists_stage hf hcontent hq hnone
  obtain ⟨hbefore, -⟩ := hapart e List.mem_cons_self
  obtain ⟨hlegal, hletters⟩ := tail_text hfit
  obtain ⟨-, hprevious⟩ := before_child hparent hbefore hstage.content_eq
  have hfree : ∀ m ∈ nodes (outline before), m ∉ [e] := fun m hm hme =>
    hbefore (List.mem_singleton.mp hme ▸ hm)
  obtain ⟨g, cs, hgives, happended, hcs, hnodes⟩ := hstage.cut.appendTail _ hlegal
    (endsAt_last (.inl rfl)) rfl hfree
  have hreleased := happended.release List.mem_cons_self
  have hout : Constituent.node e ∉ cs := fun hmem =>
    hbefore (hnodes ▸ Constituent.mem_nodes.mpr hmem)
  rw [Constituent.without_mid hout, List.dropWhile_idempotent] at hreleased
  refine hreleased.leaves hf ?_ ?_
  · refine (gives_get f).bind ?_
    rw [hparent]
    refine (gives_modify _ f).bind ?_
    rw [hprevious, htail]
    exact hgives.ite_bind (gives_modify _ g)
  · conv_rhs =>
      rw [← List.takeWhile_append_dropWhile (p := Constituent.isText) (l := outline after)]
    simp only [Constituent.letters_append, hcs, hletters, List.append_assoc]

/-- The last child is the last node of the content. -/
theorem lastChild?_eq : f.lastChild? p = (nodes (outline (f.content p))).getLast? := by
  rw [Forest.lastChild?, Part.numbers_eq_nodes]

/-- The content of the parent once items are appended that are none of its children. -/
theorem appendItems_leaves (hf : f.IsSound) (hcontent : f.content p = before ++ q :: after)
    (hq : q.number? = some e) (hitems : f.Takes p e items) (he : e ∉ Filling.numbers items) :
    f.Leaves (Forest.appendItems p items) p (outline before ++ .node e :: outline after ++
      items.flatMap (Filling.expanded fun n => outline (f.tail n))) := by
  obtain ⟨path, hstage, -, -, -, hapart⟩ := exists_stage hf hcontent hq hitems
  -- None of the items is a child, so they are new to the whole content.
  have hnew : ∀ n ∈ Filling.numbers items ++ [],
      n ∉ nodes (outline before ++ .node e :: outline after) := by
    intro n hn
    rw [List.append_nil] at hn
    have hne : n ≠ e := fun heq => he (heq ▸ hn)
    simpa [hne] using hapart n (List.mem_cons_of_mem e hn)
  have hready : Stage f p path (fun n => outline (f.tail n)) f
      ([] ++ (outline before ++ .node e :: outline after)) (Filling.numbers items ++ []) := by
    rw [List.nil_append, List.append_nil]
    exact hstage.mono fun n hn => List.mem_cons_of_mem e hn
  -- The loop starts behind everything there is, so its items follow one after the other.
  obtain ⟨g, cs, hgives, happended, hcs, -, -⟩ :=
    Stage.appendAfter items hitems.legal (by simpa using hitems.distinct)
      (fun _ _ => endsAt_last (.inl rfl)) (by simp) hnew hready
  refine happended.leaves hf ?_ ?_
  · refine (gives_get f).bind ?_
    rw [lastChild?_eq, hstage.content_eq]
    exact hgives
  · rw [List.nil_append, hcs, ← Constituent.letters_append]

/-- The content of the parent once items are appended among which is one of its children. -/
theorem appendItems_leaves_child (hf : f.IsSound) (hcontent : f.content p = before ++ q :: after)
    (hq : q.number? = some e) (hitems : f.Takes p e items) (he : e ∈ Filling.numbers items)
    (hfirst : f.lastChild? p = some e → ∀ s, items.head? ≠ some (.text s)) :
    f.Leaves (Forest.appendItems p items) p (outline before ++ outline (Part.behindFront after) ++
      items.flatMap (Filling.expanded fun n => outline (f.tail n))) := by
  obtain ⟨path, hstage, -, htail, -, hapart⟩ := exists_stage hf hcontent hq hitems
  obtain ⟨first, second, rfl⟩ := Filling.exists_of_mem_numbers he
  have hdistinct := hitems.distinct
  rw [Filling.numbers_append, Filling.numbers_cons_node] at hdistinct hapart
  have hsplit : outline before ++ .node e :: outline after
      = outline before ++ .node e :: outline (f.tail e) ++
        (outline after).dropWhile Constituent.isText := by
    simp [htail, Part.outline_takeWhile_isText]
  -- A text at the front goes behind the last child. If the last child is itself among the items,
  -- its place is given up, and so the text must not come first.
  have hends : ∀ s, first.head? = some (.text s) →
      Stage.EndsAt (outline before ++ .node e :: outline (f.tail e))
        ((outline after).dropWhile Constituent.isText) (f.lastChild? p) := by
    intro s hs
    have hlast := hstage.content_eq
    rw [hsplit] at hlast
    by_cases hbehind : nodes ((outline after).dropWhile Constituent.isText) = []
    · have htexts := Part.isText_of_mem_spots (hstage.pending e List.mem_cons_self).2
      refine absurd (by simp [hs]) (hfirst ?_ s)
      rw [lastChild?_eq, hlast, Constituent.nodes_append, hbehind]
      simp [Constituent.nodes_texts htexts]
    · rw [lastChild?_eq, hlast, Constituent.nodes_append, List.getLast?_append_of_ne_nil _ hbehind]
      exact endsAt_last (.inr hbehind)
  rw [hsplit, Filling.numbers_append, Filling.numbers_cons_node] at hstage
  obtain ⟨g, cs, hgives, happended, hcs⟩ :=
    Stage.appendAfter_child first second hitems.legal hdistinct hends (takeWhile_dropWhile _ _)
      (fun n hn => by simpa using hapart n (List.mem_cons_of_mem e hn))
      (hstage.mono fun n hn => List.mem_cons_of_mem e hn)
  refine happended.leaves hf ?_ ?_
  · refine (gives_get f).bind ?_
    exact hgives
  · rw [hcs, Part.outline_behindFront]

/-- Splicing loses and reorders nothing. Where an element `p` contains a child `e`:

* replacing the child puts the items in order between what stands before and behind it, each node
  with the text behind it, and the old text behind the child follows them;
* detaching the child leaves what replacing it with nothing leaves;
* appending items adds them in order to the content. If the child is among them, it leaves its old
  place; it must not be the last node then when text comes first, as that text goes behind it. -/
theorem Forest.splicing_in_order (hf : f.IsSound) (hcontent : f.content p = before ++ q :: after)
    (hq : q.number? = some e) (hitems : f.Takes p e items) :
    f.Leaves (Forest.replace e items) p (outline before ++
        items.flatMap (Filling.expanded fun n => if n = e then [] else outline (f.tail n)) ++
        outline after) ∧
      (f.Leaves (Forest.detach e) p (outline before ++ outline after) ∧
        f.Leaves (Forest.replace e []) p (outline before ++ outline after)) ∧
      ((e ∈ Filling.numbers items → f.lastChild? p = some e →
          ∀ s, items.head? ≠ some (.text s)) →
        f.Leaves (Forest.appendItems p items) p
          ((if e ∈ Filling.numbers items then outline before ++ outline (Part.behindFront after)
            else outline (before ++ q :: after)) ++
            items.flatMap (Filling.expanded fun n => outline (f.tail n)))) := by
  refine ⟨replace_leaves hf hcontent hq hitems, ⟨detach_leaves hf hcontent hq, ?_⟩, ?_⟩
  · have hnone : f.Takes p e [] := ⟨by simp, .nil, by simp, by simp⟩
    simpa using replace_leaves hf hcontent hq hnone
  · intro hfirst
    by_cases he : e ∈ Filling.numbers items
    · rw [if_pos he]
      exact appendItems_leaves_child hf hcontent hq hitems he (hfirst he)
    · rw [if_neg he]
      obtain ⟨shape, inner, rfl⟩ := Part.exists_of_number? hq
      simpa using appendItems_leaves hf hcontent hq hitems he

end

/-- An element without attributes. -/
def plainElement (name : String) (children : List Node) : Node :=
  .element ⟨.plain name, [], [], none⟩ children

/-- An element `0` with a child `1` between texts, in which stands `2`, and another child `3`, and
beside it a tree `4`. -/
def Forest.mixed : Forest :=
  ((Forest.ofRoot (plainElement "p" [.text "a", plainElement "e" [.text "x",
    plainElement "c" [], .text "y"], .text "b", plainElement "z" []])).add
    (plainElement "n" [])).1

/-- The child is replaced with a text, its own child, another tree and itself. -/
theorem Forest.splicing_in_order_mixed :
    Forest.mixed.Leaves (Forest.replace 1 [.text "s", .node 2, .node 4, .node 1]) 0
      [.text "a", .text "s", .node 2, .text "y", .node 4, .node 1, .text "b", .node 3] := by
  have hsound : Forest.mixed.IsSound :=
    (Forest.ofRoot_isSound (by decide +kernel)).add (by decide +kernel)
  have hcontent : Forest.mixed.content 0 = [.text "a"] ++
      .node 1 (.element ⟨.plain "e", [], [], none⟩)
        [.text "x", .node 2 (.element ⟨.plain "c", [], [], none⟩) [], .text "y"] ::
      [.text "b", .node 3 (.element ⟨.plain "z", [], [], none⟩) []] := by cbv
  have hfound : [2, 4, 1].all (fun n => (Forest.mixed.node? n).isSome) = true := by cbv
  have hroots : Part.root? 4 Forest.mixed.parts = some 4 ∧
      Part.root? 0 Forest.mixed.parts = some 0 := by cbv
  have hinner : Part.numbers (Forest.mixed.content 1) = [2] := by cbv
  have hitems : Forest.mixed.Takes 0 1 [.text "s", .node 2, .node 4, .node 1] := by
    refine ⟨fun s hs => ?_, by decide, List.all_eq_true.mp hfound, by simp [hroots, hinner]⟩
    obtain rfl : s = "s" := by simpa using hs
    decide +kernel
  -- The child loses its text, which stays with the content.
  have htails : [Filling.text "s", .node 2, .node 4, .node 1].flatMap
      (Filling.expanded fun n => if n = 1 then [] else outline (Forest.mixed.tail n))
        = [.text "s", .node 2, .text "y", .node 4, .node 1] := by cbv
  have hleaves := (Forest.splicing_in_order hsound hcontent rfl hitems).1
  rw [htails] at hleaves
  exact hleaves

/-- An element with one child, a text behind the child. -/
def Forest.lone : Forest :=
  Forest.ofRoot (plainElement "p" [plainElement "e" [], .text "t"])

/-- No text comes into a document that the document cannot hold, and a text that is to come before
the last node comes behind it when the node stands there already. -/
theorem Forest.splicing_out_of_order :
    ¬ Forest.lone.Leaves (Forest.replace 1 [.text "\x00"]) 0 [.text "\x00", .text "t"] ∧
      ¬ Forest.lone.Leaves (Forest.appendItems 0 [.text "s", .node 1]) 0
        [.text "s", .node 1, .text "t"] := by
  constructor
  · rintro ⟨g, hgives, -⟩
    have hfails : ((Forest.replace 1 [.text "\x00"]).run.run Forest.lone).1.isOk = false := by cbv
    rw [hgives] at hfails
    cases hfails
  · rintro ⟨g, hgives, -, -, hmerged⟩
    have hcontent : outline (((Forest.appendItems 0 [.text "s", .node 1]).run.run
        Forest.lone).2.content 0) = [.node 1, .text "ts"] := by cbv
    rw [hgives] at hcontent
    rw [hcontent] at hmerged
    revert hmerged
    decide +kernel

end AttrTemplates.Xml
