import Mathlib.Data.List.TakeWhile
import AttrTemplates.Xml.Forest

/-!
# `AttrTemplates.Proofs.Xml.Outline`: content as texts and nodes

What stands in a node is a list of parts, and the same text may be cut up in it in many ways.
`outline` names the nodes of the list by their numbers, and `merged` joins the texts that stand
next to each other and leaves out empty ones, so two contents read the same when their merged
outlines are equal.

* `merged_eq_of_letters`: equal merged outlines are the work of equal `letters`, the characters
  and nodes one after the other. Letters of a list are those of its parts, so equations between
  them need no joining of texts.
* `letters_front`: adding to the text at the front of content, as `Part.front?` and
  `Part.behindFront` do it, in terms of letters.
-/

set_option autoImplicit false

namespace AttrTemplates.Xml

/-- Nothing that was to be dropped is left in front. -/
theorem takeWhile_dropWhile {α : Type} (p : α → Bool) (l : List α) :
    (l.dropWhile p).takeWhile p = [] :=
  List.takeWhile_eq_nil_iff.mpr fun hl => List.dropWhile_get_zero_not p l hl

/-- What content consists of: a text, or a node by its number. -/
inductive Constituent where
  | text (s : String)
  | node (number : Nat)
  deriving DecidableEq, Repr

namespace Constituent

/-- Whether a constituent is text. -/
def isText : Constituent → Bool
  | text _ => true
  | node _ => false

/-- Puts a text in front of content, as one with a text that stands there. -/
def joinText (s : String) : List Constituent → List Constituent
  | text t :: cs => text (s ++ t) :: cs
  | cs => text s :: cs

/-- Content with texts that stand next to each other joined, and without empty ones. -/
def merged : List Constituent → List Constituent
  | [] => []
  | node n :: cs => node n :: merged cs
  | text s :: cs => if s.isEmpty then merged cs else joinText s (merged cs)

/-- The characters and nodes of content, one after the other. -/
def letters : List Constituent → List (Char ⊕ Nat)
  | [] => []
  | node n :: cs => .inr n :: letters cs
  | text s :: cs => s.toList.map .inl ++ letters cs

/-- Letters are put together like the lists they are of. -/
@[simp] theorem letters_append (cs ds : List Constituent) :
    letters (cs ++ ds) = letters cs ++ letters ds := by
  induction cs with
  | nil => rfl
  | cons c cs ih => cases c <;> simp [letters, ih]

/-- A node is a letter of its own. -/
@[simp] theorem letters_cons_node (n : Nat) (cs : List Constituent) :
    letters (node n :: cs) = .inr n :: letters cs := rfl

/-- A text is as many letters as it has characters. -/
@[simp] theorem letters_cons_text (s : String) (cs : List Constituent) :
    letters (text s :: cs) = s.toList.map .inl ++ letters cs := rfl

/-- Nothing has no letters. -/
@[simp] theorem letters_nil : letters [] = [] := rfl

/-- Content put together from its letters. -/
def ofLetters : List (Char ⊕ Nat) → List Constituent
  | [] => []
  | .inr n :: ls => node n :: ofLetters ls
  | .inl c :: ls => joinText (String.singleton c) (ofLetters ls)

/-- Texts may be joined one after the other or at once. -/
theorem joinText_joinText (s t : String) (cs : List Constituent) :
    joinText s (joinText t cs) = joinText (s ++ t) cs := by
  match cs with
  | [] => simp [joinText]
  | node _ :: _ => simp [joinText]
  | text _ :: _ => simp [joinText, String.append_assoc]

/-- Characters in front of letters make a text in front of what the letters make. -/
theorem ofLetters_text_append (c : Char) (chars : List Char) (ls : List (Char ⊕ Nat)) :
    ofLetters ((c :: chars).map .inl ++ ls)
      = joinText (String.ofList (c :: chars)) (ofLetters ls) := by
  induction chars generalizing c with
  | nil => rfl
  | cons d chars ih =>
    have hcons : String.ofList (c :: d :: chars)
        = String.singleton c ++ String.ofList (d :: chars) := by
      apply String.toList_injective
      simp
    rw [hcons, ← joinText_joinText, ← ih d]
    rfl

/-- Merged constituents can be told from their letters. -/
theorem merged_eq_ofLetters (cs : List Constituent) : merged cs = ofLetters (letters cs) := by
  induction cs with
  | nil => rfl
  | cons c cs ih =>
    cases c with
    | node n => simp [merged, ofLetters, ih]
    | text s =>
      obtain ⟨chars, rfl⟩ : ∃ chars, s = String.ofList chars := ⟨s.toList, by simp⟩
      cases chars with
      | nil => simp [merged, ih]
      | cons c chars =>
        rw [letters_cons_text, String.toList_ofList, ofLetters_text_append, ← ih, merged,
          if_neg (by simp)]

/-- Content with the same letters reads the same. -/
theorem merged_eq_of_letters {cs ds : List Constituent} (h : letters cs = letters ds) :
    merged cs = merged ds := by
  rw [merged_eq_ofLetters, merged_eq_ofLetters, h]

/-! ### Nodes of content -/

/-- The number of a node. -/
def number? : Constituent → Option Nat
  | text _ => none
  | node n => some n

/-- The numbers of the nodes of content. -/
def nodes (cs : List Constituent) : List Nat := cs.filterMap number?

/-- Nodes are put together like the lists they are in. -/
@[simp] theorem nodes_append (cs ds : List Constituent) :
    nodes (cs ++ ds) = nodes cs ++ nodes ds := List.filterMap_append

/-- Nothing has no nodes. -/
@[simp] theorem nodes_nil : nodes [] = [] := rfl

/-- A node is counted. -/
@[simp] theorem nodes_cons_node (n : Nat) (cs : List Constituent) :
    nodes (node n :: cs) = n :: nodes cs := rfl

/-- A text is not counted. -/
@[simp] theorem nodes_cons_text (s : String) (cs : List Constituent) :
    nodes (text s :: cs) = nodes cs := rfl

/-- The nodes of a list are those whose numbers it holds. -/
theorem mem_nodes {n : Nat} {cs : List Constituent} : n ∈ nodes cs ↔ node n ∈ cs := by
  induction cs with
  | nil => simp
  | cons c cs ih => cases c <;> simp [ih]

/-- Texts hold no nodes. -/
theorem nodes_texts {cs : List Constituent} (h : ∀ c ∈ cs, c.isText) : nodes cs = [] := by
  rw [List.eq_nil_iff_forall_not_mem]
  intro n hn
  exact absurd (h _ (mem_nodes.mp hn)) (by simp [isText])

/-- Text in front of a list does not change its nodes. -/
@[simp] theorem nodes_dropWhile (cs : List Constituent) :
    nodes (cs.dropWhile isText) = nodes cs := by
  have hsplit := congrArg nodes (List.takeWhile_append_dropWhile (p := isText) (l := cs))
  rwa [nodes_append, nodes_texts (List.all_eq_true.mp List.all_takeWhile), List.nil_append]
    at hsplit

/-- Content without a node and the text behind it. -/
def without (n : Nat) : List Constituent → List Constituent
  | [] => []
  | text s :: cs => text s :: without n cs
  | node m :: cs => if m = n then cs.dropWhile isText else node m :: without n cs

/-- A node that is not there leaves nothing out. -/
theorem without_of_not_mem {n : Nat} {cs : List Constituent} (h : node n ∉ cs) :
    without n cs = cs := by
  induction cs with
  | nil => rfl
  | cons c cs ih =>
    rw [List.mem_cons, not_or] at h
    cases c with
    | text s => rw [without, ih h.2]
    | node m => rw [without, if_neg fun hmn : m = n => h.1 (by rw [hmn]), ih h.2]

/-- A node is left out with the text behind it, which belongs to it. -/
theorem without_mid {n : Nat} {before : List Constituent} (h : node n ∉ before)
    (after : List Constituent) :
    without n (before ++ node n :: after) = before ++ after.dropWhile isText := by
  induction before with
  | nil => rw [List.nil_append, without, if_pos rfl, List.nil_append]
  | cons c before ih =>
    rw [List.mem_cons, not_or] at h
    cases c with
    | text s => rw [List.cons_append, without, ih h.2, List.cons_append]
    | node m =>
      have hmn : m ≠ n := fun hmn => h.1 (by rw [hmn])
      rw [List.cons_append, without, if_neg hmn, ih h.2, List.cons_append]

end Constituent

/-! ### Outlines of parts -/

namespace Part

/-- A part as a constituent of content. -/
def constituent : Part → Constituent
  | text s => .text s
  | node n .. => .node n

/-- Parts as constituents of content. -/
def outline (ps : List Part) : List Constituent := ps.map constituent

/-- No parts have no outline. -/
@[simp] theorem outline_nil : outline [] = [] := rfl

/-- A text stands in the outline as it is. -/
@[simp] theorem outline_cons_text (s : String) (ps : List Part) :
    outline (text s :: ps) = .text s :: outline ps := rfl

/-- A node stands in the outline by its number. -/
@[simp] theorem outline_cons_node (n : Nat) (shape : Shape) (content ps : List Part) :
    outline (node n shape content :: ps) = .node n :: outline ps := rfl

/-- Outlines are put together like the parts they are of. -/
@[simp] theorem outline_append (ps qs : List Part) :
    outline (ps ++ qs) = outline ps ++ outline qs := by simp [outline]

/-- A part that has a number is a node. -/
theorem exists_of_number? {p : Part} {n : Nat} (h : p.number? = some n) :
    ∃ shape content, p = node n shape content := by
  cases p with
  | text => simp [number?] at h
  | node m shape content =>
    obtain rfl : m = n := by simpa [number?] using h
    exact ⟨shape, content, rfl⟩

/-- A part is text if it stands for text in the outline. -/
theorem isText_constituent (p : Part) : p.constituent.isText = p.isText := by cases p <;> rfl

/-- The text in front of parts is the text in front of their outline. -/
theorem outline_takeWhile_isText (ps : List Part) :
    outline (ps.takeWhile isText) = (outline ps).takeWhile Constituent.isText := by
  simp [outline, List.takeWhile_map, Function.comp_def, isText_constituent]

/-- What is behind that text is the same in the outline. -/
theorem outline_behindFront (ps : List Part) :
    outline (behindFront ps) = (outline ps).dropWhile Constituent.isText := by
  simp [outline, behindFront, List.dropWhile_map, Function.comp_def, isText_constituent]

/-- The numbers of parts are the nodes of their outline. -/
theorem numbers_eq_nodes (ps : List Part) : numbers ps = Constituent.nodes (outline ps) := by
  induction ps with
  | nil => rfl
  | cons p ps ih =>
    cases p with
    | text s => exact ih
    | node n => exact congrArg (n :: ·) ih

/-- Taking a node out of parts, with the text behind it, takes it out of their outline. -/
theorem outline_remove (n : Nat) (ps : List Part) :
    outline (editAt n (fun _ after => behindFront after) ps) =
      Constituent.without n (outline ps) := by
  induction ps with
  | nil => simp [editAt, Constituent.without]
  | cons p ps ih =>
    cases p with
    | text s => rw [editAt, outline_cons_text, ih, outline_cons_text, Constituent.without]
    | node m shape content =>
      rw [editAt, outline_cons_node, Constituent.without]
      split
      · exact outline_behindFront ps
      · rw [outline_cons_node, ih]

/-- A part of an outline is the outline of parts. -/
theorem outline_eq_append {ps : List Part} {cs ds : List Constituent}
    (h : outline ps = cs ++ ds) :
    ∃ before after, ps = before ++ after ∧ outline before = cs ∧ outline after = ds :=
  List.map_eq_append_iff.mp h

/-- If an outline begins with a node, that node is the first of the parts. -/
theorem outline_eq_cons_node {ps : List Part} {n : Nat} {cs : List Constituent}
    (h : outline ps = .node n :: cs) :
    ∃ shape content after, ps = node n shape content :: after ∧ outline after = cs := by
  obtain ⟨p, after, rfl, hp, hafter⟩ := List.map_eq_cons_iff.mp h
  cases p with
  | text => simp [constituent] at hp
  | node m shape content =>
    obtain rfl : m = n := by simpa [constituent] using hp
    exact ⟨shape, content, after, rfl, hafter⟩

/-- The letters of texts that stand next to each other are those of the texts joined. -/
theorem letters_join (ps : List Part) (h : ∀ p ∈ ps, p.isText) :
    (String.join (ps.map textContent)).toList.map .inl = Constituent.letters (outline ps) := by
  induction ps with
  | nil => simp
  | cons p ps ih =>
    cases p with
    | node => simp [isText] at h
    | text s =>
      have htail : ∀ p ∈ ps, p.isText := fun p hp => h p (List.mem_cons_of_mem _ hp)
      simp only [List.map_cons, String.join_cons, String.toList_append, List.map_append, ih htail,
        textContent, outline_cons_text, Constituent.letters_cons_text]

/-- What the text at the front of parts, none or not, has for letters. -/
theorem letters_front (ps : List Part) :
    ((front? ps).getD "").toList.map .inl
      = Constituent.letters (outline (ps.takeWhile isText)) := by
  have htexts : ∀ p ∈ ps.takeWhile isText, p.isText := List.all_eq_true.mp List.all_takeWhile
  rw [← letters_join _ htexts, front?]
  cases ps.takeWhile isText <;> rfl

end Part

end AttrTemplates.Xml
