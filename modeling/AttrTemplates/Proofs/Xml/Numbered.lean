import Mathlib.Data.List.Nodup
import AttrTemplates.Proofs.Xml.Outline

/-!
# `AttrTemplates.Proofs.Xml.Numbered`: finding numbered nodes and editing around them

Every look-up in a forest goes by numbers, and so does every edit: `Part.editAt` changes the one
list a node stands in, wherever that is. Here both are described without following the search
through the trees, for parts in which no number occurs twice.

* `Part.spots` lists the nodes of parts, each with the text behind it. An edit changes one stretch
  of this list (`spots_editAt`), so what it leaves alone needs no look at where it stands.
* `Row ps path row` says that `row` is the list of parts that one comes to along the nodes of
  `path`. Look-ups follow rows (`Row.find?`, `Row.parent?`), rows are determined by the node
  they stand in (`Row.unique`), and an edit acts on every row whose path it keeps
  (`Row.editAt`).
-/

set_option autoImplicit false

namespace AttrTemplates.Xml

namespace Part

/-- The nodes in parts at every depth, each with the text behind it. -/
def spots : List Part → List (Nat × List Constituent)
  | [] => []
  | text _ :: ps => spots ps
  | node n _ content :: ps => (n, outline (ps.takeWhile isText)) :: (spots content ++ spots ps)

/-- The numbers of the nodes in parts at every depth. -/
def allNumbers (ps : List Part) : List Nat := (spots ps).map Prod.fst

/-- No parts, no numbers. -/
@[simp] theorem allNumbers_nil : allNumbers [] = [] := by simp [allNumbers, spots]

/-- A text has no number. -/
@[simp] theorem allNumbers_cons_text (s : String) (ps : List Part) :
    allNumbers (text s :: ps) = allNumbers ps := by simp [allNumbers, spots]

/-- A node has its own number and those of its content. -/
@[simp] theorem allNumbers_cons_node (n : Nat) (shape : Shape) (content ps : List Part) :
    allNumbers (node n shape content :: ps) = n :: (allNumbers content ++ allNumbers ps) := by
  simp [allNumbers, spots]

/-- Numbers are put together like the parts they are of. -/
@[simp] theorem allNumbers_append (ps qs : List Part) :
    allNumbers (ps ++ qs) = allNumbers ps ++ allNumbers qs := by
  induction ps with
  | nil => simp
  | cons p ps ih => cases p <;> simp [ih]

/-- The nodes among parts are among those at every depth. -/
theorem mem_allNumbers_of_mem {n : Nat} {shape : Shape} {content ps : List Part}
    (h : node n shape content ∈ ps) : n ∈ allNumbers ps := by
  obtain ⟨before, behind, rfl⟩ := List.append_of_mem h
  simp

/-- What stands in the outline of parts is one of their nodes. -/
theorem mem_allNumbers_of_nodes {n : Nat} {ps : List Part}
    (h : n ∈ Constituent.nodes (outline ps)) : n ∈ allNumbers ps := by
  induction ps with
  | nil => simp at h
  | cons p ps ih =>
    cases p with
    | text s => simpa using ih h
    | node m shape content =>
      obtain rfl | h := List.mem_cons.mp h
      · simp
      · simp [ih h]

/-- What stands in a node among parts is among the nodes at every depth. -/
theorem mem_allNumbers_of_content {n m : Nat} {shape : Shape} {content ps : List Part}
    (h : node n shape content ∈ ps) (hm : m ∈ allNumbers content) : m ∈ allNumbers ps := by
  obtain ⟨before, behind, rfl⟩ := List.append_of_mem h
  simp [hm]

/-! ### Text at the edges of parts -/

/-- Text in front of parts makes no spot. -/
theorem spots_append_of_isText {ts : List Part} (h : ∀ t ∈ ts, t.isText) (ps : List Part) :
    spots (ts ++ ps) = spots ps := by
  induction ts with
  | nil => rfl
  | cons t ts ih =>
    cases t with
    | node => simp [isText] at h
    | text s =>
      rw [List.cons_append, spots, ih fun t ht => h t (List.mem_cons_of_mem _ ht)]

/-- The parts that are taken from the front are text. -/
theorem isText_of_mem_takeWhile (ps : List Part) : ∀ t ∈ ps.takeWhile isText, t.isText :=
  List.all_eq_true.mp List.all_takeWhile

/-- Behind the text in front there are the same spots. -/
@[simp] theorem spots_behindFront (ps : List Part) : spots (behindFront ps) = spots ps := by
  conv_rhs => rw [← List.takeWhile_append_dropWhile (p := isText) (l := ps)]
  rw [spots_append_of_isText (isText_of_mem_takeWhile ps), behindFront]

/-- Behind the text in front there is no more text. -/
@[simp] theorem takeWhile_behindFront (ps : List Part) :
    (behindFront ps).takeWhile isText = [] :=
  takeWhile_dropWhile isText ps

/-- No node is lost with the text at the front. -/
theorem mem_behindFront {n : Nat} {shape : Shape} {content ps : List Part}
    (h : node n shape content ∈ ps) : node n shape content ∈ behindFront ps := by
  rw [← List.takeWhile_append_dropWhile (p := isText) (l := ps), List.mem_append] at h
  obtain htext | hbehind := h
  · exact absurd (isText_of_mem_takeWhile ps _ htext) (by simp [isText])
  · exact hbehind

/-- Behind nodes whose text is not run into, spots are those of both parts. -/
theorem spots_append {qs : List Part} (h : qs.takeWhile isText = []) (ps : List Part) :
    spots (ps ++ qs) = spots ps ++ spots qs := by
  have hfront (ps : List Part) : (ps ++ qs).takeWhile isText = ps.takeWhile isText := by
    rw [List.takeWhile_append, h]
    split
    · next hall => rw [List.append_nil, (List.takeWhile_prefix isText).eq_of_length hall]
    · rfl
  induction ps with
  | nil => simp [spots]
  | cons p ps ih => cases p <;> simp [spots, ih, hfront]

/-! ### Looking up and editing -/

/-- A node is looked for in the first node of parts, in its content and behind it, in this order. -/
theorem find?_cons_node (n m : Nat) (shape : Shape) (content ps : List Part) :
    find? n (node m shape content :: ps)
      = if m = n then some (node m shape content, ps) else (find? n content).or (find? n ps) := by
  rw [find?]
  cases find? n content <;> rfl

/-- A node is found if its number occurs somewhere. -/
theorem find?_isSome_iff (n : Nat) (ps : List Part) :
    (find? n ps).isSome ↔ n ∈ allNumbers ps := by
  induction ps using spots.induct with
  | case1 => simp [find?]
  | case2 s ps ih => simpa [find?] using ih
  | case3 m shape content ps ihc ih =>
    by_cases hm : m = n
    · simp [find?_cons_node, hm]
    · simp [find?_cons_node, hm, ihc, ih, Ne.symm hm]

/-- A node is not found if its number occurs nowhere. -/
theorem find?_eq_none_iff (n : Nat) (ps : List Part) : find? n ps = none ↔ n ∉ allNumbers ps := by
  rw [← find?_isSome_iff, Option.not_isSome_iff_eq_none]

/-- If no number occurs twice, the first node, its content and what is behind it share none. -/
theorem nodup_cons_node {n : Nat} {shape : Shape} {content ps : List Part}
    (h : (allNumbers (node n shape content :: ps)).Nodup) :
    n ∉ allNumbers content ++ allNumbers ps ∧ (allNumbers content).Nodup ∧ (allNumbers ps).Nodup ∧
      (allNumbers content).Disjoint (allNumbers ps) := by
  simpa [List.nodup_append'] using h

/-- The way to a node that is found: it is the first of the parts, or inside the first or behind
it. -/
inductive Found (n : Nat) (q : Part) (after : List Part) : List Part → Prop
  | here {shape : Shape} {content : List Part} : q = node n shape content →
      Found n q after (q :: after)
  | behindText (s : String) {ps : List Part} : Found n q after ps → Found n q after (text s :: ps)
  | inside (m : Nat) (shape : Shape) (content ps : List Part) : m ≠ n →
      Found n q after content → Found n q after (node m shape content :: ps)
  | behind (m : Nat) (shape : Shape) (content ps : List Part) : m ≠ n → n ∉ allNumbers content →
      Found n q after ps → Found n q after (node m shape content :: ps)

/-- What is found for a number is a node of that number, at some depth. -/
theorem found_of_find? {n : Nat} {ps after : List Part} {q : Part}
    (h : find? n ps = some (q, after)) : Found n q after ps := by
  induction ps using spots.induct with
  | case1 => simp [find?] at h
  | case2 s ps ih =>
    rw [find?] at h
    exact .behindText s (ih h)
  | case3 m shape content ps ihc ih =>
    rw [find?_cons_node] at h
    by_cases hm : m = n
    · subst hm
      simp only [if_pos, Option.some.injEq, Prod.mk.injEq] at h
      obtain ⟨rfl, rfl⟩ := h
      exact .here rfl
    · rw [if_neg hm] at h
      obtain hc | ⟨hnone, hps⟩ := Option.or_eq_some_iff.mp h
      · exact .inside m shape content ps hm (ihc hc)
      · exact .behind m shape content ps hm ((find?_eq_none_iff n content).mp hnone) (ih hps)

/-- The number of a node that was found occurs. -/
theorem Found.mem {n : Nat} {ps after : List Part} {q : Part} (h : Found n q after ps) :
    n ∈ allNumbers ps := by
  induction h with
  | here hq => simp [hq]
  | behindText s _ ih => simpa using ih
  | inside m shape content ps _ _ ih => simp [ih]
  | behind m shape content ps _ _ _ ih => simp [ih]

/-- What is found is a node of the number looked for, and its spot is among those of the parts. -/
theorem mem_spots_of_find? {n : Nat} {ps after : List Part} {q : Part}
    (h : find? n ps = some (q, after)) :
    (∃ shape content, q = node n shape content) ∧
      (n, outline (after.takeWhile isText)) ∈ spots ps := by
  have hfound := found_of_find? h
  clear h
  induction hfound with
  | here hq =>
    subst hq
    rw [spots]
    exact ⟨⟨_, _, rfl⟩, List.mem_cons_self⟩
  | behindText s _ ih =>
    rw [spots]
    exact ih
  | inside m shape content ps _ _ ih =>
    rw [spots]
    exact ⟨ih.1, List.mem_cons_of_mem _ (List.mem_append_left _ ih.2)⟩
  | behind m shape content ps _ _ _ ih =>
    rw [spots]
    exact ⟨ih.1, List.mem_cons_of_mem _ (List.mem_append_right _ ih.2)⟩

/-- Only text stands behind a node up to the next one. -/
theorem isText_of_mem_spots {n : Nat} {tail : List Constituent} {ps : List Part}
    (h : (n, tail) ∈ spots ps) : ∀ c ∈ tail, c.isText := by
  induction ps using spots.induct with
  | case1 => simp [spots] at h
  | case2 s ps ih =>
    rw [spots] at h
    exact ih h
  | case3 m shape content ps ihc ih =>
    simp only [spots, List.mem_cons, List.mem_append, Prod.mk.injEq] at h
    obtain ⟨-, rfl⟩ | hc | hrest := h
    · rw [outline_takeWhile_isText]
      exact List.all_eq_true.mp List.all_takeWhile
    · exact ihc hc
    · exact ih hrest

/-- A node with a spot is found, with the text of the spot behind it. -/
theorem find?_of_mem_spots {n : Nat} {ps : List Part} {tail : List Constituent}
    (hps : (allNumbers ps).Nodup) (h : (n, tail) ∈ spots ps) :
    ∃ shape content after, find? n ps = some (node n shape content, after) ∧
      outline (after.takeWhile isText) = tail := by
  have hn : n ∈ allNumbers ps := List.mem_map_of_mem (f := Prod.fst) h
  obtain ⟨⟨q, after⟩, hfind⟩ := Option.isSome_iff_exists.mp ((find?_isSome_iff n ps).mpr hn)
  obtain ⟨⟨shape, content, rfl⟩, hspot⟩ := mem_spots_of_find? hfind
  have hsame := List.inj_on_of_nodup_map hps hspot h rfl
  exact ⟨shape, content, after, hfind, (Prod.mk.inj hsame).2⟩

/-- A node is looked for behind parts in which it does not occur. -/
theorem find?_append_of_not_mem {n : Nat} {before : List Part} (h : n ∉ allNumbers before)
    (ps : List Part) : find? n (before ++ ps) = find? n ps := by
  induction before with
  | nil => rfl
  | cons p before ih =>
    cases p with
    | text s => rw [List.cons_append, find?, ih (by simpa using h)]
    | node m shape content =>
      simp only [allNumbers_cons_node, List.mem_cons, List.mem_append, not_or] at h
      rw [List.cons_append, find?_cons_node, if_neg (Ne.symm h.1),
        (find?_eq_none_iff n content).mpr h.2.1, Option.none_or, ih h.2.2]

/-- A node among parts is found there with what stands behind it. -/
theorem find?_mid {n : Nat} {before : List Part} (h : n ∉ allNumbers before) (shape : Shape)
    (content after : List Part) :
    find? n (before ++ node n shape content :: after) = some (node n shape content, after) := by
  rw [find?_append_of_not_mem h, find?_cons_node, if_pos rfl]

variable {g : Part → List Part → List Part}

/-- An edit at a node that is not there changes nothing. -/
theorem editAt_of_not_mem {n : Nat} {ps : List Part} (h : n ∉ allNumbers ps) :
    editAt n g ps = ps := by
  induction ps using spots.induct with
  | case1 => rw [editAt]
  | case2 s ps ih => rw [editAt, ih (by simpa using h)]
  | case3 m shape content ps ihc ih =>
    simp only [allNumbers_cons_node, List.mem_cons, List.mem_append, not_or] at h
    rw [editAt, if_neg (Ne.symm h.1), ihc h.2.1, ih h.2.2]

/-- An edit at a node among parts. -/
theorem editAt_mid {n : Nat} {before : List Part} (h : n ∉ allNumbers before) (shape : Shape)
    (content after : List Part) :
    editAt n g (before ++ node n shape content :: after)
      = before ++ g (node n shape content) after := by
  induction before with
  | nil => simp [editAt]
  | cons p before ih =>
    cases p with
    | text s => rw [List.cons_append, editAt, ih (by simpa using h), List.cons_append]
    | node m shape content =>
      simp only [allNumbers_cons_node, List.mem_cons, List.mem_append, not_or] at h
      rw [List.cons_append, editAt, if_neg (Ne.symm h.1), editAt_of_not_mem h.2.1, ih h.2.2,
        List.cons_append]

/-- An edit that does not begin with text keeps the text in front of the node. -/
theorem takeWhile_editAt {n : Nat}
    (hg : ∀ shape content after, (g (node n shape content) after).takeWhile isText = [])
    (ps : List Part) : (editAt n g ps).takeWhile isText = ps.takeWhile isText := by
  induction ps with
  | nil => rw [editAt]
  | cons p ps ih =>
    cases p with
    | text s => rw [editAt, List.takeWhile_cons_of_pos rfl, ih, List.takeWhile_cons_of_pos rfl]
    | node m shape content =>
      by_cases hm : m = n
      · subst hm; simp [editAt, hg, isText]
      · simp [editAt, hm, isText]

/-- An edit changes the spots from the node on, in the list where it stands, and no others. -/
theorem spots_editAt {n : Nat} {ps after : List Part} {q : Part}
    (hps : (allNumbers ps).Nodup) (h : find? n ps = some (q, after)) :
    ∃ before behind, spots ps = before ++ spots (q :: after) ++ behind ∧
      ∀ g : Part → List Part → List Part,
        (∀ shape content after, (g (node n shape content) after).takeWhile isText = []) →
        spots (editAt n g ps) = before ++ spots (g q after) ++ behind := by
  have hfound := found_of_find? h
  clear h
  induction hfound with
  | here hq =>
    subst hq
    exact ⟨[], [], by simp, fun g _ => by simp [editAt]⟩
  | behindText s _ ih =>
    obtain ⟨before, behind, hspots, hedit⟩ := ih (by simpa using hps)
    exact ⟨before, behind, by rw [spots, hspots], fun g hg => by rw [editAt, spots, hedit g hg]⟩
  | inside m shape content ps hm hin ih =>
    -- The number is not in the rest, since it is in the content: the edit leaves the rest alone.
    obtain ⟨-, hcontent, -, hapart⟩ := nodup_cons_node hps
    obtain ⟨before, behind, hspots, hedit⟩ := ih hcontent
    refine ⟨(m, outline (ps.takeWhile isText)) :: before, behind ++ spots ps, ?_, fun g hg => ?_⟩
    · simp [spots, hspots]
    · rw [editAt, if_neg hm, editAt_of_not_mem (hapart hin.mem), spots, hedit g hg]
      simp
  | behind m shape content ps hm hnot _ ih =>
    obtain ⟨-, -, hrest, -⟩ := nodup_cons_node hps
    obtain ⟨before, behind, hspots, hedit⟩ := ih hrest
    refine ⟨(m, outline (ps.takeWhile isText)) :: (spots content ++ before), behind, ?_,
      fun g hg => ?_⟩
    · simp [spots, hspots]
    · rw [editAt, if_neg hm, editAt_of_not_mem hnot, spots, hedit g hg, takeWhile_editAt hg]
      simp

/-! ### Rows -/

/-- The list of parts that one comes to along the nodes of a path, innermost first. -/
inductive Row (ps : List Part) : List Nat → List Part → Prop
  | top : Row ps [] ps
  | inside {path : List Nat} {row : List Part} {n : Nat} {shape : Shape} {content : List Part} :
    Row ps path row → node n shape content ∈ row → Row ps (n :: path) content

section Rows

variable {ps row content after : List Part} {path : List Nat} {n m : Nat} {shape : Shape}

/-- The content of a node has no number twice if the row it stands in has none. -/
theorem nodup_content (h : (allNumbers row).Nodup) (hm : node m shape content ∈ row) :
    (allNumbers content).Nodup := by
  obtain ⟨before, behind, rfl⟩ := List.append_of_mem hm
  simp only [allNumbers_append, allNumbers_cons_node, List.nodup_append, List.nodup_cons] at h
  exact h.2.1.2.1

/-- A node stands in no node that stands in it. -/
theorem not_mem_content (h : (allNumbers row).Nodup) (hm : node m shape content ∈ row) :
    m ∉ allNumbers content := by
  obtain ⟨before, behind, rfl⟩ := List.append_of_mem hm
  simp only [allNumbers_append, allNumbers_cons_node, List.nodup_append, List.nodup_cons] at h
  exact fun hmem => h.2.1.1 (List.mem_append_left _ hmem)

/-- What stands in a node of a list stands nowhere else in the list. -/
theorem not_mem_around {before : List Part}
    (h : (allNumbers (before ++ node m shape content :: after)).Nodup)
    (hn : n ∈ allNumbers [node m shape content]) :
    n ∉ allNumbers before ∧ n ∉ allNumbers after := by
  rw [List.append_cons, allNumbers_append, allNumbers_append, List.nodup_append,
    List.nodup_append] at h
  obtain ⟨⟨-, -, hbefore⟩, -, hafter⟩ := h
  exact ⟨fun hmem => hbefore n hmem n hn rfl,
    fun hmem => hafter n (List.mem_append_right _ hn) n hmem rfl⟩

/-- A node that is in one place is not in the parts before it. -/
theorem not_mem_before {before : List Part}
    (h : (allNumbers (before ++ node m shape content :: after)).Nodup)
    (hn : n ∈ allNumbers [node m shape content]) : n ∉ allNumbers before :=
  (not_mem_around h hn).1

/-- A row has no number twice if the parts it is a row of have none. -/
theorem Row.nodup (hrow : Row ps path row) (h : (allNumbers ps).Nodup) :
    (allNumbers row).Nodup := by
  induction hrow with
  | top => exact h
  | inside _ hm ih => exact nodup_content ih hm

/-- A row of a row is a row, along both paths. -/
theorem Row.trans {path' : List Nat} {row' : List Part} (hrow : Row ps path row)
    (hrow' : Row row path' row') : Row ps (path' ++ path) row' := by
  induction hrow' with
  | top => exact hrow
  | inside _ hm ih => exact .inside ih hm

/-- From a node of a row one comes to what stands in it. -/
theorem Row.mid {before : List Part}
    (hrow : Row ps path (before ++ node n shape content :: after)) :
    Row ps (n :: path) content :=
  hrow.inside (List.mem_append_right _ List.mem_cons_self)

/-- Another part in front of all is seen in the row at the top. -/
theorem Row.cons (hrow : Row ps path row) (p : Part) :
    ∃ row', Row (p :: ps) path row' ∧ row <:+ row' := by
  induction hrow with
  | top => exact ⟨p :: ps, .top, List.suffix_cons p ps⟩
  | inside _ hm ih =>
    obtain ⟨row', hrow', hsuffix⟩ := ih
    exact ⟨_, .inside hrow' (hsuffix.subset hm), List.suffix_refl _⟩

/-- More parts behind all are seen in the row at the top. -/
theorem Row.append (hrow : Row ps path row) (qs : List Part) :
    ∃ row', Row (ps ++ qs) path row' ∧ row ⊆ row' := by
  induction hrow with
  | top => exact ⟨ps ++ qs, .top, List.subset_append_left ps qs⟩
  | inside _ hm ih =>
    obtain ⟨row', hrow', hsubset⟩ := ih
    exact ⟨_, .inside hrow' (hsubset hm), List.Subset.refl _⟩

/-- A node that is found stands in a row. -/
theorem exists_row_of_find? (h : find? n ps = some (node n shape content, after)) :
    ∃ path before, Row ps path (before ++ node n shape content :: after) := by
  have hfound := found_of_find? h
  clear h
  induction hfound with
  | here _ => exact ⟨[], [], .top⟩
  | behindText s _ ih =>
    obtain ⟨path, before, hrow⟩ := ih
    obtain ⟨_, hrow', front, rfl⟩ := hrow.cons (text s)
    exact ⟨path, front ++ before, by rwa [List.append_assoc]⟩
  | inside m shape content ps _ _ ih =>
    obtain ⟨path, before, hrow⟩ := ih
    exact ⟨path ++ [m], before, (Row.inside .top List.mem_cons_self).trans hrow⟩
  | behind m shape content ps _ _ _ ih =>
    obtain ⟨path, before, hrow⟩ := ih
    obtain ⟨_, hrow', front, rfl⟩ := hrow.cons (node m shape content)
    exact ⟨path, front ++ before, by rwa [List.append_assoc]⟩

/-- The search through parts that have a node goes on inside the node that holds what is looked
for. -/
theorem find?_inside (h : (allNumbers row).Nodup) (hm : node m shape content ∈ row)
    (hn : n ∈ allNumbers content) : find? n row = find? n content := by
  have hmn : m ≠ n := fun heq => not_mem_content h hm (heq ▸ hn)
  obtain ⟨before, behind, rfl⟩ := List.append_of_mem hm
  have hbefore : n ∉ allNumbers before := not_mem_before h (by simp [hn])
  obtain ⟨found, hfound⟩ := Option.isSome_iff_exists.mp ((find?_isSome_iff n content).mpr hn)
  rw [find?_append_of_not_mem hbefore, find?_cons_node, if_neg hmn, hfound, Option.some_or]

/-- What is found in a row is found among all the parts. -/
theorem Row.find? {found : Part × List Part} (hrow : Row ps path row) (h : (allNumbers ps).Nodup)
    (hn : Part.find? n row = some found) : Part.find? n ps = some found := by
  induction hrow with
  | top => exact hn
  | inside hrow hm ih =>
    refine ih ?_
    rwa [find?_inside (hrow.nodup h) hm ((find?_isSome_iff _ _).mp (by rw [hn]; rfl))]

/-- The parent of a node is looked for in the order in which the node is. -/
theorem parent?_cons_node (around : Option Nat) :
    parent? n around (node m shape content :: ps)
      = if m = n then some around
        else (parent? n (some m) content).or (parent? n around ps) := by
  rw [parent?]
  cases parent? n (some m) content <;> rfl

/-- A node that does not occur has no parent. -/
theorem parent?_eq_none {around : Option Nat} (h : n ∉ allNumbers ps) :
    parent? n around ps = none := by
  induction ps using spots.induct generalizing around with
  | case1 => rw [parent?]
  | case2 s ps ih => rw [parent?, ih (by simpa using h)]
  | case3 m shape content ps ihc ih =>
    simp only [allNumbers_cons_node, List.mem_cons, List.mem_append, not_or] at h
    rw [parent?_cons_node, if_neg (Ne.symm h.1), ihc h.2.1, ih h.2.2, Option.none_or]

/-- A parent is looked for behind parts in which the node does not occur. -/
theorem parent?_append_of_not_mem {before : List Part} {around : Option Nat}
    (h : n ∉ allNumbers before) : parent? n around (before ++ ps) = parent? n around ps := by
  induction before with
  | nil => rfl
  | cons p before ih =>
    cases p with
    | text s => rw [List.cons_append, parent?, ih (by simpa using h)]
    | node m shape content =>
      simp only [allNumbers_cons_node, List.mem_cons, List.mem_append, not_or] at h
      rw [List.cons_append, parent?_cons_node, if_neg (Ne.symm h.1), parent?_eq_none h.2.1,
        Option.none_or, ih h.2.2]

/-- The nodes of a row stand in the node that the path of the row ends in. -/
theorem Row.parent? {shape : Shape} {content : List Part} (hrow : Row ps path row)
    (h : (allNumbers ps).Nodup) (hn : node n shape content ∈ row) :
    Part.parent? n none ps = some path.head? := by
  -- Up along the row: what is found inside a node of a row is found from above, since the numbers
  -- are distinct and nothing in front of the node has the number.
  have hup : ∀ {around : Option Nat}, Part.parent? n path.head? row = some around →
      n ∈ allNumbers row → Part.parent? n none ps = some around := by
    clear hn
    induction hrow with
    | top => exact fun hfound _ => hfound
    | @inside path row m shape content hrow hm ih =>
      intro around hfound hn
      refine ih ?_ (mem_allNumbers_of_content hm hn)
      have hmn : m ≠ n := fun heq => not_mem_content (hrow.nodup h) hm (heq ▸ hn)
      have hnodup := hrow.nodup h
      obtain ⟨before, behind, rfl⟩ := List.append_of_mem hm
      have hbefore : n ∉ allNumbers before := not_mem_before hnodup (by simp [hn])
      rw [List.head?_cons] at hfound
      rw [parent?_append_of_not_mem hbefore, parent?_cons_node, if_neg hmn, hfound,
        Option.some_or]
  refine hup ?_ (mem_allNumbers_of_mem hn)
  have hnodup := hrow.nodup h
  obtain ⟨before, behind, rfl⟩ := List.append_of_mem hn
  rw [parent?_append_of_not_mem (not_mem_before hnodup (by simp)), parent?_cons_node,
    if_pos rfl]

/-- A row lies at one path: the node it stands in tells the one around it, and so on. -/
theorem Row.unique {path' : List Nat} {row' : List Part} (h : (allNumbers ps).Nodup)
    (hrow : Row ps (n :: path) row) (hrow' : Row ps (n :: path') row') : path = path' := by
  induction path generalizing n row path' row' with
  | nil =>
    cases hrow with
    | inside hout hm =>
      cases hrow' with
      | inside hout' hm' =>
        have hhead := (hout.parent? h hm).symm.trans (hout'.parent? h hm')
        simpa [eq_comm] using hhead
  | cons m path ih =>
    cases hrow with
    | inside hout hm =>
      cases hrow' with
      | inside hout' hm' =>
        have hhead := (hout.parent? h hm).symm.trans (hout'.parent? h hm')
        -- The node `m` around the first row is the one around the second, so neither path ends
        -- here.
        cases path' with
        | nil => simp at hhead
        | cons m' path' =>
          obtain rfl : m = m' := by simpa using hhead
          rw [ih hout hout']

/-- The nodes on the way to a row do not stand in it. -/
theorem Row.apart (hrow : Row ps path row) (h : (allNumbers ps).Nodup) :
    ∀ m ∈ path, m ∉ allNumbers row := by
  induction hrow with
  | top => simp
  | inside hrow hm ih =>
    intro k hk
    obtain rfl | hk := List.mem_cons.mp hk
    · -- The node whose content the row is would stand in itself.
      exact not_mem_content (hrow.nodup h) hm
    · -- What is not in a row is not in the content of its nodes either.
      exact fun hmem => ih k hk (mem_allNumbers_of_content hm hmem)

/-- An edit that keeps a node of a list reaches into that node, too. -/
theorem mem_editAt (h : (allNumbers row).Nodup) (hm : node m shape content ∈ row)
    (hg : ∀ shape' content' after, node m shape content ∈ node n shape' content' :: after →
      node m shape content ∈ g (node n shape' content') after) :
    node m shape (editAt n g content) ∈ editAt n g row := by
  induction row with
  | nil => simp at hm
  | cons p row ih =>
    cases p with
    | text s =>
      rw [editAt]
      exact List.mem_cons_of_mem _ (ih (by simpa using h) (by simpa using hm))
    | node k shape' content' =>
      rw [editAt]
      by_cases hk : k = n
      · -- The edit is at this node, and its content has no other node of that number.
        subst hk
        have hcontent : k ∉ allNumbers content := by
          obtain heq | hrest := List.mem_cons.mp hm
          · obtain ⟨rfl, rfl, rfl⟩ := Part.node.inj heq
            exact not_mem_content h List.mem_cons_self
          · intro hmem
            exact (nodup_cons_node h).1
              (List.mem_append_right _ (mem_allNumbers_of_content hrest hmem))
        rw [if_pos rfl, editAt_of_not_mem hcontent]
        exact hg _ _ _ hm
      · rw [if_neg hk]
        obtain heq | hrest := List.mem_cons.mp hm
        · obtain ⟨rfl, rfl, rfl⟩ := Part.node.inj heq
          exact List.mem_cons_self
        · exact List.mem_cons_of_mem _ (ih (nodup_cons_node h).2.2.1 hrest)

/-- An edit acts on every row whose path it keeps. -/
theorem Row.editAt (hrow : Row ps path row) (h : (allNumbers ps).Nodup)
    (hg : ∀ m ∈ path, ∀ shape content shape' content' after,
      node m shape content ∈ node n shape' content' :: after →
        node m shape content ∈ g (node n shape' content') after) :
    Row (editAt n g ps) path (editAt n g row) := by
  induction hrow with
  | top => exact .top
  | @inside path row m shape content hrow hm ih =>
    have hmem : node m shape (Part.editAt n g content) ∈ Part.editAt n g row :=
      mem_editAt (hrow.nodup h) hm (hg m List.mem_cons_self shape content)
    exact .inside (ih fun k hk => hg k (List.mem_cons_of_mem _ hk)) hmem

/-- All that stands in a tree, and the nodes on the way there, have one root. -/
theorem Row.root? (hrow : Row ps path row) (h : (allNumbers ps).Nodup) (hpath : path ≠ []) :
    ∃ root, ∀ x, x ∈ path ∨ x ∈ allNumbers row → Part.root? x ps = some root := by
  obtain ⟨before, root, shape, content, behind, rfl, hin⟩ : ∃ before root shape content behind,
      ps = before ++ node root shape content :: behind ∧
        ∀ x, x ∈ path ∨ x ∈ allNumbers row → x ∈ allNumbers [node root shape content] := by
    -- By induction on the row: the first step from the top is into the root, and all steps behind
    -- it stay inside.
    clear h
    induction hrow with
    | top => exact absurd rfl hpath
    | @inside path row m shape content hrow hm ih =>
      cases hrow with
      | top =>
        obtain ⟨before, behind, rfl⟩ := List.append_of_mem hm
        exact ⟨before, m, shape, content, behind, rfl, by simp⟩
      | inside =>
        obtain ⟨before, root, shape', content', behind, rfl, hin⟩ := ih (by simp)
        refine ⟨before, root, shape', content', behind, rfl, fun x hx => ?_⟩
        rcases hx with hx | hx
        · obtain rfl | hx := List.mem_cons.mp hx
          · exact hin _ (.inr (mem_allNumbers_of_mem hm))
          · exact hin x (.inl hx)
        · exact hin x (.inr (mem_allNumbers_of_content hm hx))
  refine ⟨root, fun x hx => ?_⟩
  have hx := hin x hx
  have hbefore : x ∉ allNumbers before := not_mem_before h hx
  clear h hrow hin
  induction before with
  | nil => rw [List.nil_append, Part.root?, if_pos ((find?_isSome_iff _ _).mpr hx)]
  | cons p before ih =>
    cases p with
    | text s => rw [List.cons_append, Part.root?, ih (by simpa using hbefore)]
    | node k shape' content' =>
      simp only [allNumbers_cons_node, List.mem_cons, List.mem_append, not_or] at hbefore
      have hnot : ¬ (Part.find? x [node k shape' content']).isSome := by
        rw [find?_isSome_iff]
        simp [hbefore.1, hbefore.2.1]
      rw [List.cons_append, Part.root?, if_neg hnot, ih hbefore.2.2]

end Rows

end Part

end AttrTemplates.Xml
