import AttrTemplates.Proofs.Xml.Numbered
import AttrTemplates.Proofs.Xml.Reader

/-!
# `AttrTemplates.Proofs.Xml.Placed`: one element while nodes come and go

Splicing works on the content of one element, its place in the trees being fixed, while nodes
are taken from everywhere. `Placed ps p path content` says that the element `p` stands at the
end of `path` and holds `content`, in parts that are as they should be: numbers are distinct, and
what is there may stand in a document (`Fit`).

There is one lemma for each of the changes that splicing is made of: other text behind a node of
the content (`Placed.retail`) or in front of it (`Placed.front`), a node taken out of the place
where it stands (`Placed.remove`) and put into the content (`Placed.insert`, `Placed.append`) or
beside the trees (`Placed.beside`). Each tells the new content, and what becomes of the spots of
all nodes.
-/

set_option autoImplicit false

namespace AttrTemplates.Xml

/-- Whether a shape is that of an element. -/
def Shape.isElement : Shape → Bool
  | element _ => true
  | _ => false

namespace Part

/-- Parts that may stand in a document: texts are legal, and only elements hold anything. -/
def Fit : List Part → Prop
  | [] => True
  | text s :: ps => isLegalText s = true ∧ Fit ps
  | node _ shape content :: ps =>
    (content ≠ [] → shape.isElement = true) ∧ Fit content ∧ Fit ps

/-- No parts are fit. -/
@[simp] theorem fit_nil : Fit [] := by simp [Fit]

/-- A text is fit if it is legal. -/
@[simp] theorem fit_cons_text (s : String) (ps : List Part) :
    Fit (text s :: ps) ↔ isLegalText s = true ∧ Fit ps := by simp [Fit]

/-- A node is fit if its content is, and if it is an element or has no content. -/
@[simp] theorem fit_cons_node (n : Nat) (shape : Shape) (content ps : List Part) :
    Fit (node n shape content :: ps)
      ↔ (content ≠ [] → shape.isElement = true) ∧ Fit content ∧ Fit ps := by simp [Fit]

/-- Parts are fit together if they are fit on either side. -/
@[simp] theorem fit_append (ps qs : List Part) : Fit (ps ++ qs) ↔ Fit ps ∧ Fit qs := by
  induction ps with
  | nil => simp
  | cons p ps ih => cases p <;> simp [ih, and_assoc]

/-- Fit parts come apart behind the text in front. -/
theorem Fit.split {ps : List Part} (h : Fit ps) :
    Fit (ps.takeWhile isText) ∧ Fit (behindFront ps) := by
  rwa [← fit_append, behindFront, List.takeWhile_append_dropWhile]

/-- The text at the front of parts that may stand in a document is legal. -/
theorem Fit.front {ps : List Part} (h : Fit ps) : isLegalText ((front? ps).getD "") = true := by
  have hjoin : ∀ ts : List Part, (∀ t ∈ ts, t.isText) → Fit ts →
      isLegalText (String.join (ts.map textContent)) = true := by
    intro ts hts hfit
    induction ts with
    | nil => rfl
    | cons t ts ih =>
      cases t with
      | node => simp [isText] at hts
      | text s =>
        rw [fit_cons_text] at hfit
        rw [List.map_cons, String.join_cons, isLegalText_append, textContent, hfit.1,
          ih (fun t ht => hts t (List.mem_cons_of_mem _ ht)) hfit.2]
        rfl
  rw [front?]
  split
  · rfl
  · exact hjoin _ (isText_of_mem_takeWhile ps) h.split.1

/-- What is found may stand in a document when all does. -/
theorem Fit.find? {n : Nat} {ps after : List Part} {q : Part} (h : Fit ps)
    (hfind : Part.find? n ps = some (q, after)) : Fit (q :: after) := by
  have hfound := found_of_find? hfind
  clear hfind
  induction hfound with
  | here _ => exact h
  | behindText s _ ih => exact ih ((fit_cons_text _ _).mp h).2
  | inside m shape content ps _ _ ih => exact ih ((fit_cons_node _ _ _ _).mp h).2.1
  | behind m shape content ps _ _ _ ih => exact ih ((fit_cons_node _ _ _ _).mp h).2.2

/-- An edit leaves parts that may stand in a document when it does so where it acts. -/
theorem Fit.editAt {n : Nat} {g : Part → List Part → List Part} {ps after : List Part} {q : Part}
    (h : Fit ps) (hps : (allNumbers ps).Nodup) (hfind : Part.find? n ps = some (q, after))
    (hg : Fit (q :: after) → Fit (g q after)) : Fit (Part.editAt n g ps) := by
  have hfound := found_of_find? hfind
  clear hfind
  induction hfound with
  | here hq =>
    subst hq
    rw [Part.editAt, if_pos rfl]
    exact hg h
  | behindText s _ ih =>
    rw [fit_cons_text] at h
    rw [Part.editAt, fit_cons_text]
    exact ⟨h.1, ih h.2 (by simpa using hps)⟩
  | inside m shape content ps hm hin ih =>
    obtain ⟨-, hcontent, -, hapart⟩ := nodup_cons_node hps
    rw [fit_cons_node] at h
    rw [Part.editAt, if_neg hm, fit_cons_node, editAt_of_not_mem (hapart hin.mem)]
    -- A node that has no content has nothing in it to be found.
    refine ⟨fun _ => h.1 ?_, ih h.2.1 hcontent, h.2.2⟩
    rintro rfl
    cases hin
  | behind m shape content ps hm hnot _ ih =>
    obtain ⟨-, -, hrest, -⟩ := nodup_cons_node hps
    rw [fit_cons_node] at h
    rw [Part.editAt, if_neg hm, fit_cons_node, editAt_of_not_mem hnot]
    exact ⟨h.1, h.2.1, ih h.2.2 hrest⟩

end Part

/-! ### Forests as they should be -/

open Xml.Part (allNumbers Fit)

/-- A forest in which nodes have numbers of their own, and what is there may stand in a
document. -/
structure Forest.IsSound (f : Forest) : Prop where
  distinct : (allNumbers f.parts).Nodup
  below : ∀ n ∈ allNumbers f.parts, n < f.next
  fit : Fit f.parts

/-- Parts have numbers of their own, from one on and below another. -/
structure IsNumbered (next after : Nat) (ps : List Part) : Prop where
  le : next ≤ after
  mem : ∀ n ∈ allNumbers ps, next ≤ n ∧ n < after
  nodup : (allNumbers ps).Nodup

/-- A node without content takes up one number. -/
theorem isNumbered_leaf (next : Nat) (shape : Shape) :
    IsNumbered next (next + 1) [.node next shape []] :=
  ⟨Nat.le_succ next, by simp, by simp⟩

/-- Numbers go on where those of the parts before end. -/
theorem IsNumbered.append {next middle after : Nat} {ps qs : List Part}
    (hps : IsNumbered next middle ps) (hqs : IsNumbered middle after qs) :
    IsNumbered next after (ps ++ qs) := by
  obtain ⟨hle, hmem, hnodup⟩ := hps
  obtain ⟨hle', hmem', hnodup'⟩ := hqs
  refine ⟨by omega, fun n hn => ?_, ?_⟩
  · rw [Part.allNumbers_append, List.mem_append] at hn
    obtain hn | hn := hn
    · have := hmem n hn
      omega
    · have := hmem' n hn
      omega
  · rw [Part.allNumbers_append, List.nodup_append]
    refine ⟨hnodup, hnodup', fun n hn m hm => ?_⟩
    have := hmem n hn
    have := hmem' m hm
    omega

mutual

/-- Numbering a tree gives its nodes numbers of their own. -/
theorem Node.isNumbered (next : Nat) : ∀ n : Node,
    IsNumbered next (n.numbered next).2 [(n.numbered next).1] ∧
      (n.isLegal = true → Fit [(n.numbered next).1])
  | .text s => by
    rw [Node.numbered]
    exact ⟨⟨Nat.le_refl next, by simp, by simp⟩, fun h => by simpa [Node.isLegal] using h⟩
  | .comment s line => by
    rw [Node.numbered]
    exact ⟨isNumbered_leaf next _, fun _ => by simp⟩
  | .instruction target s line => by
    rw [Node.numbered]
    exact ⟨isNumbered_leaf next _, fun _ => by simp⟩
  | .reference n => by
    rw [Node.numbered]
    exact ⟨isNumbered_leaf next _, fun _ => by simp⟩
  | .element tag children => by
    obtain ⟨⟨hle, hmem, hnodup⟩, hfit⟩ := areNumbered (next + 1) children
    rw [Node.numbered]
    dsimp only
    refine ⟨⟨by omega, ?_, ?_⟩, fun h => ?_⟩
    · intro n hn
      simp only [Part.allNumbers_cons_node, Part.allNumbers_nil, List.append_nil,
        List.mem_cons] at hn
      obtain rfl | hn := hn
      · exact ⟨Nat.le_refl _, by omega⟩
      · have := hmem n hn
        omega
    · simp only [Part.allNumbers_cons_node, Part.allNumbers_nil, List.append_nil,
        List.nodup_cons]
      refine ⟨fun hn => ?_, hnodup⟩
      have := hmem next hn
      omega
    · rw [Part.fit_cons_node]
      exact ⟨fun _ => rfl, hfit h, Part.fit_nil⟩

/-- By recursion on the nodes: their numbers follow one another, and legal nodes become fit parts.
-/
theorem areNumbered (next : Nat) : ∀ ns : List Node,
    IsNumbered next (numberedList next ns).2 (numberedList next ns).1 ∧
      (areLegal ns = true → Fit (numberedList next ns).1)
  | [] => by
    rw [numberedList]
    exact ⟨⟨Nat.le_refl next, by simp, by simp⟩, fun _ => Part.fit_nil⟩
  | n :: ns => by
    obtain ⟨hn, hfit⟩ := Node.isNumbered next n
    obtain ⟨hns, hfits⟩ := areNumbered (n.numbered next).2 ns
    rw [numberedList]
    refine ⟨hn.append hns, fun h => ?_⟩
    obtain ⟨hlegal, hlegals⟩ := Bool.and_eq_true_iff.mp h
    exact (Part.fit_append [_] _).mpr ⟨hfit hlegal, hfits hlegals⟩

end

/-- A tree that a document may hold is a sound forest. -/
theorem Forest.ofRoot_isSound {root : Node} (h : root.isLegal = true) :
    (Forest.ofRoot root).IsSound := by
  obtain ⟨⟨hle, hmem, hnodup⟩, hfit⟩ := Node.isNumbered 0 root
  exact ⟨hnodup, fun n hn => (hmem n hn).2, hfit h⟩

/-- A sound forest remains one when a tree is added. -/
theorem Forest.IsSound.add {f : Forest} (hf : f.IsSound) {root : Node}
    (h : root.isLegal = true) : (f.add root).1.IsSound := by
  obtain ⟨hnew, hfit⟩ := Node.isNumbered f.next root
  have hold : IsNumbered 0 f.next f.parts :=
    ⟨Nat.zero_le _, fun n hn => ⟨Nat.zero_le n, hf.below n hn⟩, hf.distinct⟩
  obtain ⟨hle, hmem, hnodup⟩ := hold.append hnew
  exact ⟨hnodup, fun n hn => (hmem n hn).2, (Part.fit_append _ _).mpr ⟨hf.fit, hfit h⟩⟩

namespace Part

/-! ### Other tags -/

/-- Tags are given to nodes only. -/
theorem withTags_text (s : String) (n : Node) : (text s).withTags n = text s := by
  cases n <;> simp [withTags]

/-- A node keeps its number when it is given a tag, and its content is kept or given tags itself. -/
theorem withTags_node (m : Nat) (shape : Shape) (content : List Part) (n : Node) :
    ∃ shape' content', (node m shape content).withTags n = node m shape' content' ∧
      shape'.isElement = shape.isElement ∧
      (content' = content ∨ ∃ children, content' = withTagsAll content children) := by
  cases shape with
  | element tag =>
    cases n with
    | element tag' children =>
      exact ⟨.element tag', withTagsAll content children, by rw [withTags], rfl, .inr ⟨_, rfl⟩⟩
    | _ => exact ⟨.element tag, content, by simp [withTags], rfl, .inl rfl⟩
  | _ => exact ⟨_, content, by simp [withTags], rfl, .inl rfl⟩

/-- Other tags do not touch numbers and texts. -/
theorem withTagsAll_keeps (ps : List Part) (ns : List Node) :
    spots (withTagsAll ps ns) = spots ps ∧ outline (withTagsAll ps ns) = outline ps ∧
      (Fit ps → Fit (withTagsAll ps ns)) := by
  -- By the recursion over nodes, which take their content along.
  induction ps using spots.induct generalizing ns with
  | case1 => cases ns <;> simp [withTagsAll]
  | case2 s ps ih =>
    cases ns with
    | nil => simp [withTagsAll]
    | cons n ns =>
      obtain ⟨hspots, houtline, hfit⟩ := ih ns
      rw [withTagsAll, withTags_text]
      refine ⟨by rw [spots, spots, hspots], by simp [houtline], fun h => ?_⟩
      rw [fit_cons_text] at h ⊢
      exact ⟨h.1, hfit h.2⟩
  | case3 m shape content ps ihc ih =>
    cases ns with
    | nil => simp [withTagsAll]
    | cons n ns =>
      obtain ⟨hspots, houtline, hfit⟩ := ih ns
      obtain ⟨shape', content', hnode, hshape, hcontent⟩ := withTags_node m shape content n
      have hinner : spots content' = spots content ∧ (content = [] → content' = []) ∧
          (Fit content → Fit content') := by
        rcases hcontent with rfl | ⟨children, rfl⟩
        · exact ⟨rfl, id, id⟩
        · exact ⟨(ihc children).1, by rintro rfl; simp [withTagsAll], (ihc children).2.2⟩
      rw [withTagsAll, hnode]
      refine ⟨?_, by simp [houtline], fun h => ?_⟩
      · rw [spots, spots, hinner.1, hspots, outline_takeWhile_isText, outline_takeWhile_isText,
          houtline]
      · rw [fit_cons_node] at h ⊢
        exact ⟨fun hne => hshape ▸ h.1 (mt hinner.2.1 hne), hinner.2.2 h.2.1, hfit h.2.2⟩

/-- A node that is adapted to a scope keeps its number and all that stands in it. -/
theorem exists_adoptInto (m : Nat) (shape : Shape) (content : List Part) (around : Scope)
    (made : Prefixes) :
    ∃ shape' content' made',
      (node m shape content).adoptInto around made = (node m shape' content', made') ∧
      spots content' = spots content ∧
      (Fit [node m shape content] → Fit [node m shape' content']) := by
  obtain ⟨adopted, made', hadopted⟩ :
      ∃ adopted made', (node m shape content).toNode.adoptInto around made = (adopted, made') :=
    ⟨_, _, rfl⟩
  obtain ⟨shape', content', hnode, -, -⟩ := withTags_node m shape content adopted
  have hkeeps := withTagsAll_keeps [node m shape content] [adopted]
  rw [withTagsAll, hnode, withTagsAll.eq_def] at hkeeps
  refine ⟨shape', content', made', ?_, ?_, hkeeps.2.2⟩
  · rw [Part.adoptInto, hadopted, ← hnode]
  · simpa [spots] using hkeeps.1

/-! ### An element in its place -/

/-- An element stands at the end of a path and has its content, in parts that are as they should
be. -/
structure Placed (ps : List Part) (p : Nat) (path : List Nat) (content : List Part) : Prop where
  distinct : (allNumbers ps).Nodup
  fit : Fit ps
  standing : ∃ row tag, Row ps path row ∧ node p (.element tag) content ∈ row

namespace Placed

variable {ps content before after : List Part} {p n : Nat} {path : List Nat}

/-- The content of an element that is placed is a row. -/
theorem row (h : Placed ps p path content) : Row ps (p :: path) content := by
  obtain ⟨row, tag, hrow, hp⟩ := h.standing
  exact hrow.inside hp

/-- An element that is placed is found under its number. -/
theorem find? (h : Placed ps p path content) :
    ∃ tag after, Part.find? p ps = some (node p (.element tag) content, after) := by
  obtain ⟨row, tag, hrow, hp⟩ := h.standing
  have hnodup := hrow.nodup h.distinct
  obtain ⟨before, after, rfl⟩ := List.append_of_mem hp
  exact ⟨tag, after, hrow.find? h.distinct (find?_mid (not_mem_before hnodup (by simp)) _ _ _)⟩

/-- A node of the content is found with what stands behind it there. -/
theorem find?_mid {shape : Shape} {inner : List Part}
    (h : Placed ps p path (before ++ node n shape inner :: after)) :
    Part.find? n ps = some (node n shape inner, after) := by
  have hnodup := h.row.nodup h.distinct
  exact h.row.find? h.distinct (Part.find?_mid (not_mem_before hnodup (by simp)) _ _ _)

/-- The element does not stand in a node that is not on its path. -/
theorem not_mem_of_not_mem_path {q : Part} (h : Placed ps p path content) (hn : n ∉ p :: path)
    (hq : Part.find? n ps = some (q, after)) : p ∉ allNumbers [q] := by
  intro hp
  obtain ⟨⟨shape, inner, rfl⟩, -⟩ := mem_spots_of_find? hq
  obtain ⟨outer, before, hout⟩ := exists_row_of_find? hq
  have hin : Row ps (n :: outer) inner := hout.mid
  simp only [allNumbers_cons_node, allNumbers_nil, List.append_nil, List.mem_cons] at hp
  obtain rfl | hp := hp
  · exact hn List.mem_cons_self
  obtain ⟨⟨q, after'⟩, hfind⟩ := Option.isSome_iff_exists.mp ((find?_isSome_iff p inner).mpr hp)
  obtain ⟨⟨shape', content', rfl⟩, -⟩ := mem_spots_of_find? hfind
  obtain ⟨way, before', hway⟩ := exists_row_of_find? hfind
  have hdown : Row ps (p :: (way ++ n :: outer)) content' := (hin.trans hway).mid
  have hpath : path = way ++ n :: outer := Row.unique h.distinct h.row hdown
  exact hn (by simp [hpath])

/-- An edit that keeps the element and the nodes around it acts on the content of the element. -/
theorem standing_editAt {g : Part → List Part → List Part} (h : Placed ps p path content)
    (hg : ∀ m ∈ p :: path, ∀ shape content shape' content' after,
      node m shape content ∈ node n shape' content' :: after →
        node m shape content ∈ g (node n shape' content') after) :
    ∃ row tag, Row (editAt n g ps) path row ∧
      node p (.element tag) (editAt n g content) ∈ row := by
  obtain ⟨row, tag, hrow, hp⟩ := h.standing
  refine ⟨Part.editAt n g row, tag,
    hrow.editAt h.distinct fun m hm => hg m (List.mem_cons_of_mem _ hm), ?_⟩
  exact mem_editAt (hrow.nodup h.distinct) hp (hg p List.mem_cons_self _ _)

/-- An edit at the element itself, which changes its content only. -/
theorem standing_editSelf {g : Part → List Part → List Part} (h : Placed ps p path content)
    (change : List Part → List Part)
    (hg : ∀ tag content after, g (node p (.element tag) content) after
      = node p (.element tag) (change content) :: after)
    (hkeeps : ∀ shape content after m, m ∈ after → m ∈ g (node p shape content) after) :
    ∃ row tag, Row (editAt p g ps) path row ∧ node p (.element tag) (change content) ∈ row := by
  obtain ⟨row, tag, hrow, hp⟩ := h.standing
  have hself : p ∉ path := fun hmem => hrow.apart h.distinct p hmem (mem_allNumbers_of_mem hp)
  refine ⟨Part.editAt p g row, tag, hrow.editAt h.distinct ?_, ?_⟩
  · intro m hm shape content shape' content' after hin
    obtain heq | hin := List.mem_cons.mp hin
    · obtain ⟨rfl, -, -⟩ := Part.node.inj heq
      exact absurd hm hself
    · exact hkeeps _ _ _ _ hin
  · have hnodup := hrow.nodup h.distinct
    obtain ⟨before, after, rfl⟩ := List.append_of_mem hp
    rw [editAt_mid (not_mem_before hnodup (by simp)), hg]
    simp

/-! ### Changes of text -/

/-- Other text behind a node of the content. No other node has another text behind it. -/
theorem retail {shape : Shape} {inner : List Part} (texts : List Part → List Part)
    (htexts : ∀ after, ∀ t ∈ texts after, t.isText)
    (hfit : Fit after → Fit (texts after))
    (h : Placed ps p path (before ++ node n shape inner :: after)) :
    let qs := editAt n (fun q after => q :: (texts after ++ behindFront after)) ps
    Placed qs p path (before ++ node n shape inner :: (texts after ++ behindFront after)) ∧
      allNumbers qs = allNumbers ps ∧
      ∀ m tail, m ≠ n → (m, tail) ∈ spots ps → (m, tail) ∈ spots qs := by
  intro qs
  -- The spots behind the node are the same, so the only spot that differs is the one of the node.
  have hspots : ∀ after, spots (texts after ++ behindFront after) = spots after := by
    intro after
    rw [spots_append_of_isText (htexts after), spots_behindFront]
  obtain ⟨front, back, hps, hedit⟩ := spots_editAt h.distinct h.find?_mid
  have hqs := hedit (fun q after => q :: (texts after ++ behindFront after))
    (fun _ _ _ => rfl)
  simp only [spots, hspots] at hps hqs
  have hnumbers : allNumbers qs = allNumbers ps := by
    rw [allNumbers, allNumbers, hps, hqs]
    simp
  refine ⟨⟨hnumbers ▸ h.distinct, ?_, ?_⟩, hnumbers, ?_⟩
  · refine h.fit.editAt h.distinct h.find?_mid fun hq => ?_
    simp only [fit_cons_node, fit_append] at hq ⊢
    exact ⟨hq.1, hq.2.1, hfit hq.2.2, hq.2.2.split.2⟩
  · have hbefore : n ∉ allNumbers before :=
      not_mem_before (h.row.nodup h.distinct) (by simp : n ∈ allNumbers [node n shape inner])
    rw [← editAt_mid (g := fun q after => q :: (texts after ++ behindFront after)) hbefore]
    refine h.standing_editAt fun m _ shape content shape' content' after hin => ?_
    obtain hself | hbehind := List.mem_cons.mp hin
    · exact hself ▸ List.mem_cons_self
    · exact List.mem_cons_of_mem _ (List.mem_append_right _ (mem_behindFront hbehind))
  · intro m tail hm hmem
    rw [hps] at hmem
    rw [hqs]
    simp only [List.mem_append, List.mem_cons, Prod.mk.injEq, hm, false_and, false_or] at hmem ⊢
    exact hmem

/-- More text in front of the content. Spots stay as they are. -/
theorem front {f : Forest} {s : String} (hs : isLegalText s = true)
    (h : Placed f.parts p path content) :
    Placed (f.addFrontText p s).parts p path
        (text ((front? content).getD "" ++ s) :: behindFront content) ∧
      spots (f.addFrontText p s).parts = spots f.parts := by
  obtain ⟨tag, after, hfind⟩ := h.find?
  -- Text in front adds no node, so that no spot changes.
  obtain ⟨before, behind, hps, hedit⟩ := spots_editAt h.distinct hfind
  have hspots : spots (f.addFrontText p s).parts = spots f.parts := by
    rw [Forest.addFrontText, Forest.editAt, hedit, hps]
    · simp [spots]
    · intro shape content after
      cases shape <;> rfl
  refine ⟨⟨?_, ?_, ?_⟩, hspots⟩
  · rw [allNumbers, hspots]
    exact h.distinct
  · refine h.fit.editAt h.distinct hfind fun hq => ?_
    simp only [fit_cons_node, fit_cons_text, isLegalText_append] at hq ⊢
    exact ⟨fun _ => rfl, ⟨by rw [hq.2.1.front, hs]; rfl, hq.2.1.split.2⟩, hq.2.2⟩
  · refine h.standing_editSelf
      (fun content => text ((front? content).getD "" ++ s) :: behindFront content)
      (fun _ _ _ => rfl) ?_
    intro shape content after m hm
    cases shape <;> exact List.mem_cons_of_mem _ hm

/-! ### Nodes that go and come -/

/-- A node that does not hold the element goes, with the text behind it. -/
theorem remove {shape : Shape} {inner : List Part} (hn : n ∉ p :: path)
    (hfind : Part.find? n ps = some (node n shape inner, after)) (h : Placed ps p path content) :
    let qs := editAt n (fun _ after => behindFront after) ps
    Placed qs p path (editAt n (fun _ after => behindFront after) content) ∧
      (spots ps).Perm
        ((n, outline (after.takeWhile isText)) :: (spots inner ++ spots qs)) := by
  intro qs
  obtain ⟨front, back, hps, hedit⟩ := spots_editAt h.distinct hfind
  have hqs : spots qs = front ++ spots after ++ back := by
    rw [hedit _ fun _ _ after => takeWhile_behindFront after, spots_behindFront]
  -- The spots come in another order: those of the node itself first, and then those that are left.
  have hperm : (spots ps).Perm
      ((n, outline (after.takeWhile isText)) :: (spots inner ++ spots qs)) := by
    rw [hps, hqs, spots]
    simpa using List.perm_append_comm_assoc front
      ((n, outline (after.takeWhile isText)) :: spots inner) (spots after ++ back)
  refine ⟨⟨?_, ?_, ?_⟩, hperm⟩
  · have hnodup := (hperm.map Prod.fst).nodup_iff.mp h.distinct
    rw [List.map_cons, List.map_append, List.nodup_cons] at hnodup
    exact (List.nodup_append.mp hnodup.2).2.1
  · exact h.fit.editAt h.distinct hfind fun hq => ((fit_cons_node _ _ _ _).mp hq).2.2.split.2
  · -- A node on the way to the content is not the one that goes, so it is behind the text.
    refine h.standing_editAt fun m hm shape content shape' content' after hin => ?_
    obtain heq | hin := List.mem_cons.mp hin
    · obtain ⟨rfl, -, -⟩ := Part.node.inj heq
      exact absurd hm hn
    · exact mem_behindFront hin

/-- A node with text behind it comes in front of a node of the content. -/
theorem insert {a : Nat} {shape shape' : Shape} {inner inner' texts : List Part}
    (htexts : ∀ t ∈ texts, t.isText) (hfit : Fit (node n shape' inner' :: texts))
    (hnew : (allNumbers (node n shape' inner' :: ps)).Nodup)
    (h : Placed ps p path (before ++ node a shape inner :: after)) :
    let qs := editAt a (fun q after => node n shape' inner' :: texts ++ q :: after) ps
    Placed qs p path
        (before ++ (node n shape' inner' :: texts ++ node a shape inner :: after)) ∧
      (spots qs).Perm ((n, outline texts) :: (spots inner' ++ spots ps)) := by
  intro qs
  obtain ⟨front, back, hps, hedit⟩ := spots_editAt h.distinct h.find?_mid
  have hqs := hedit (fun q after => node n shape' inner' :: texts ++ q :: after)
    (fun _ _ _ => rfl)
  have htail : (texts ++ node a shape inner :: after).takeWhile isText = texts := by
    rw [List.takeWhile_append_of_pos htexts, List.takeWhile_cons_of_neg (by simp [isText]),
      List.append_nil]
  -- The new spot comes in front of the one of `a`, and all others are where they were.
  have hperm : (spots qs).Perm ((n, outline texts) :: (spots inner' ++ spots ps)) := by
    rw [hps, hqs, List.cons_append, spots, htail, spots_append_of_isText htexts]
    simpa using List.perm_append_comm_assoc front ((n, outline texts) :: spots inner')
      (spots (node a shape inner :: after) ++ back)
  refine ⟨⟨?_, ?_, ?_⟩, hperm⟩
  · rw [allNumbers, (hperm.map Prod.fst).nodup_iff]
    simpa [allNumbers, spots] using hnew
  · exact h.fit.editAt h.distinct h.find?_mid fun hq => (fit_append _ _).mpr ⟨hfit, hq⟩
  · have hbefore : a ∉ allNumbers before :=
      not_mem_before (h.row.nodup h.distinct) (by simp : a ∈ allNumbers [node a shape inner])
    rw [← editAt_mid (g := fun q after => node n shape' inner' :: texts ++ q :: after) hbefore]
    exact h.standing_editAt fun m _ shape content shape' content' after hin =>
      List.mem_append_right _ hin

/-- A node with text behind it comes at the end of the content. -/
theorem append {shape' : Shape} {inner' texts : List Part} {f : Forest}
    (htexts : ∀ t ∈ texts, t.isText) (hfit : Fit (node n shape' inner' :: texts))
    (hnew : (allNumbers (node n shape' inner' :: f.parts)).Nodup)
    (h : Placed f.parts p path content) :
    let g := f.editContent p (· ++ node n shape' inner' :: texts)
    Placed g.parts p path (content ++ node n shape' inner' :: texts) ∧
      (spots g.parts).Perm ((n, outline texts) :: (spots inner' ++ spots f.parts)) := by
  intro g
  obtain ⟨tag, after, hfind⟩ := h.find?
  obtain ⟨front, back, hps, hedit⟩ := spots_editAt h.distinct hfind
  have htail : texts.takeWhile isText = texts := by
    rw [← List.append_nil texts, List.takeWhile_append_of_pos htexts, List.takeWhile_nil]
  have htexts' : spots texts = [] := by
    rw [← List.append_nil texts, spots_append_of_isText htexts, spots]
  -- The edit is at `p` itself, since its content has no node for the new one to come in front of.
  have hqs : spots g.parts = _ := hedit _ fun _ _ _ => rfl
  have hperm : (spots g.parts).Perm ((n, outline texts) :: (spots inner' ++ spots f.parts)) := by
    rw [hps, hqs]
    dsimp only
    rw [spots, spots, spots_append rfl, spots, htail, htexts']
    simpa using List.perm_append_comm_assoc (front ++ (p, _) :: spots content)
      ((n, outline texts) :: spots inner') (spots after ++ back)
  refine ⟨⟨?_, ?_, ?_⟩, hperm⟩
  · rw [allNumbers, (hperm.map Prod.fst).nodup_iff]
    simpa [allNumbers, spots] using hnew
  · refine h.fit.editAt h.distinct hfind fun hq => ?_
    simp only [fit_cons_node, fit_append] at hq hfit ⊢
    exact ⟨fun _ => rfl, ⟨hq.2.1, hfit⟩, hq.2.2⟩
  · exact h.standing_editSelf (· ++ node n shape' inner' :: texts) (fun _ _ _ => rfl)
      fun shape content after m hm => List.mem_cons_of_mem _ hm

/-- A node with text behind it comes beside all the trees. -/
theorem beside {shape' : Shape} {inner' texts : List Part}
    (htexts : ∀ t ∈ texts, t.isText) (hfit : Fit (node n shape' inner' :: texts))
    (hnew : (allNumbers (node n shape' inner' :: ps)).Nodup)
    (h : Placed ps p path content) :
    Placed (ps ++ node n shape' inner' :: texts) p path content ∧
      (spots (ps ++ node n shape' inner' :: texts)).Perm
        ((n, outline texts) :: (spots inner' ++ spots ps)) := by
  have htail : texts.takeWhile isText = texts := by
    rw [← List.append_nil texts, List.takeWhile_append_of_pos htexts, List.takeWhile_nil]
  have htexts' : spots texts = [] := by
    rw [← List.append_nil texts, spots_append_of_isText htexts, spots]
  have hperm : (spots (ps ++ node n shape' inner' :: texts)).Perm
      ((n, outline texts) :: (spots inner' ++ spots ps)) := by
    rw [spots_append rfl, spots, htail, htexts', List.append_nil]
    exact List.perm_append_comm
  refine ⟨⟨?_, (fit_append _ _).mpr ⟨h.fit, hfit⟩, ?_⟩, hperm⟩
  · rw [allNumbers, (hperm.map Prod.fst).nodup_iff]
    simpa [allNumbers, spots] using hnew
  · obtain ⟨row, tag, hrow, hp⟩ := h.standing
    obtain ⟨row', hrow', hsubset⟩ := hrow.append (node n shape' inner' :: texts)
    exact ⟨row', tag, hrow', hsubset hp⟩

end Placed

end Part

end AttrTemplates.Xml
