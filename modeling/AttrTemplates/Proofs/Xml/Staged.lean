import Mathlib.Data.List.DropRight
import AttrTemplates.Proofs.Xml.Placed

/-!
# `AttrTemplates.Proofs.Xml.Staged`: content that items come into

A run of edits that puts items into an element goes through one forest after the other. `Stage`
says what is known of each of them: the outline of the element's content by now, that no node has
been lost, and of the nodes that are still to come where they stand and what text they bring
along.

* One lemma for each edit: text behind content (`Stage.appendText`), a text cut off
  (`Stage.cut`), a node put into the content (`Stage.moveInto`) or beside the trees
  (`Stage.release`).
* `Stage.insertFrom` and `Stage.appendAfter` are runs over all items, by induction on them. Text
  goes to the node that came last, so the invariant is that the content so far ends there
  (`EndsAt`); what follows the content, or comes before it, is not touched.
* `Stage.appendAfter_child`: one of the items may be in the content already.
-/

set_option autoImplicit false

namespace AttrTemplates.Xml

open Constituent (letters merged)

/-! ### Edits that succeed -/

/-- An edit succeeds in one forest with a result and leaves another. -/
def Editing.Gives {α : Type} (x : Editing α) (f : Forest) (a : α) (g : Forest) : Prop :=
  x.run.run f = (.ok a, g)

namespace Editing

variable {α β : Type} {f g h : Forest}

/-- A result that is given at once leaves the forest as it was. -/
theorem gives_pure (a : α) (f : Forest) : Gives (pure a) f a f := rfl

/-- A look at the forest gives it and leaves it. -/
theorem gives_get (f : Forest) : Gives get f f f := rfl

/-- A change of the forest is what it becomes. -/
theorem gives_modify (change : Forest → Forest) (f : Forest) :
    Gives (modify change) f () (change f) := rfl

/-- Edits follow one another. -/
theorem Gives.bind {x : Editing α} {k : α → Editing β} {a : α} {b : β} (hx : Gives x f a g)
    (hk : Gives (k a) g b h) : Gives (x >>= k) f b h := by
  unfold Gives at *
  rw [ExceptT.run_bind, StateT.run_bind, hx]
  exact hk

/-- An edit that is made on a condition, before another. -/
theorem Gives.ite_bind {c : Prop} [Decidable c] {x : Editing Unit} {k : Unit → Editing β} {b : β}
    (hx : Gives (if c then x else pure ()) f () g) (hk : Gives (k ()) g b h) :
    Gives (if c then x >>= k else k ()) f b h := by
  by_cases hc : c
  · rw [if_pos hc] at hx ⊢
    exact hx.bind hk
  · rw [if_neg hc] at hx ⊢
    obtain rfl : f = g := (Prod.mk.inj hx).2
    exact hk

/-- A legal text is let pass. -/
theorem gives_checkText {s : String} (hs : isLegalText s = true) (f : Forest) :
    Gives (checkText s) f () f := by
  rw [checkText_eq_ok_iff.mpr hs]
  rfl

end Editing

open Editing

open Constituent (nodes without)
open Xml.Part (outline spots allNumbers)

/-! ### Stages -/

/-- The content of the element `p` while a forest that began as `start` is edited: what it is now,
and which nodes are still to come into it, each with the text behind it. -/
structure Stage (start : Forest) (p : Nat) (path : List Nat) (tails : Nat → List Constituent)
    (f : Forest) (cs : List Constituent) (pending : List Nat) : Prop where
  placed : ∃ content, Part.Placed f.parts p path content ∧ outline content = cs
  same : (allNumbers f.parts).Perm (allNumbers start.parts) ∧ f.next = start.next
  pending : ∀ n ∈ pending, n ∉ p :: path ∧ (n, tails n) ∈ spots f.parts

namespace Stage

variable {start f : Forest} {p : Nat} {path pending : List Nat} {tails : Nat → List Constituent}
variable {cs : List Constituent}

/-- Fewer nodes may be left to come. -/
theorem mono (h : Stage start p path tails f cs pending) {fewer : List Nat}
    (hfewer : ∀ n ∈ fewer, n ∈ pending) : Stage start p path tails f cs fewer :=
  ⟨h.placed, h.same, fun n hn => h.pending n (hfewer n hn)⟩

/-- At every stage the content of the element is what the stage says. -/
theorem content_eq (h : Stage start p path tails f cs pending) :
    outline (f.content p) = cs := by
  obtain ⟨content, hplaced, rfl⟩ := h.placed
  obtain ⟨tag, after, hfind⟩ := hplaced.find?
  simp [Forest.content, Forest.node?, hfind, Part.content]

/-- At every stage the element is one. -/
theorem isElement (h : Stage start p path tails f cs pending) : f.isElement p = true := by
  obtain ⟨content, hplaced, -⟩ := h.placed
  obtain ⟨tag, after, hfind⟩ := hplaced.find?
  simp [Forest.isElement, Forest.node?, hfind]

/-- No node is on the way to the element but those that were. -/
theorem not_holds (h : Stage start p path tails f cs pending) {n : Nat} (hn : n ∉ p :: path) :
    f.holds n p = false := by
  obtain ⟨content, hplaced, -⟩ := h.placed
  rw [Forest.holds, Forest.node?]
  cases hfind : Part.find? n f.parts with
  | none => rfl
  | some found =>
    have hout := hplaced.not_mem_of_not_mem_path hn hfind
    rw [← Part.find?_isSome_iff] at hout
    simpa using hout

/-- At every stage the forest is sound. -/
theorem isSound (hstart : start.IsSound) (h : Stage start p path tails f cs pending) :
    f.IsSound := by
  obtain ⟨content, hplaced, -⟩ := h.placed
  refine ⟨hplaced.distinct, fun n hn => ?_, hplaced.fit⟩
  rw [h.same.2]
  exact hstart.below n (h.same.1.mem_iff.mp hn)

/-- More text behind a node of the content. -/
theorem addTailText (before after : List Constituent) {m : Nat} {s : String}
    (hs : isLegalText s = true) (hm : m ∉ pending)
    (h : Stage start p path tails f (before ++ .node m :: after) pending) :
    ∃ t, letters [.text t] = letters (after.takeWhile Constituent.isText) ++ letters [.text s] ∧
      Stage start p path tails (f.addTailText m s)
        (before ++ .node m :: .text t :: after.dropWhile Constituent.isText) pending := by
  obtain ⟨content, hplaced, houtline⟩ := h.placed
  obtain ⟨front, back, rfl, rfl, hback⟩ := Part.outline_eq_append houtline
  obtain ⟨shape, inner, rest, rfl, rfl⟩ := Part.outline_eq_cons_node hback
  obtain ⟨hretailed, hnumbers, hspots⟩ := hplaced.retail
    (fun after => [.text ((Part.front? after).getD "" ++ s)]) (by simp [Part.isText])
    (fun hfit => by simp [isLegalText_append, hfit.front, hs])
  refine ⟨(Part.front? rest).getD "" ++ s, ?_, ⟨_, hretailed, ?_⟩, ?_, ?_⟩
  · rw [← Part.outline_takeWhile_isText, ← Part.letters_front]
    simp
  · simp [Part.outline_behindFront]
  · exact ⟨hnumbers ▸ h.same.1, h.same.2⟩
  · intro n hn
    obtain ⟨hout, hspot⟩ := h.pending n hn
    exact ⟨hout, hspots n _ (fun heq => hm (heq ▸ hn)) hspot⟩

/-- More text in front of the content. -/
theorem addFrontText {s : String} (hs : isLegalText s = true)
    (h : Stage start p path tails f cs pending) :
    ∃ t, letters [.text t] = letters (cs.takeWhile Constituent.isText) ++ letters [.text s] ∧
      Stage start p path tails (f.addFrontText p s)
        (.text t :: cs.dropWhile Constituent.isText) pending := by
  obtain ⟨content, hplaced, rfl⟩ := h.placed
  obtain ⟨hfront, hspots⟩ := hplaced.front hs
  refine ⟨(Part.front? content).getD "" ++ s, ?_, ⟨_, hfront, ?_⟩, ?_, ?_⟩
  · rw [← Part.outline_takeWhile_isText, ← Part.letters_front]
    simp
  · simp [Part.outline_behindFront]
  · exact ⟨by rw [allNumbers, hspots]; exact h.same.1, h.same.2⟩
  · rw [hspots]
    exact h.pending

/-- The text behind a node of the content goes. -/
theorem cut {before after : List Constituent} {e : Nat}
    (h : Stage start p path tails f (before ++ .node e :: after) pending) :
    Stage start p path (fun n => if n = e then [] else tails n)
      (f.editAt e fun q after => q :: Part.behindFront after)
      (before ++ .node e :: after.dropWhile Constituent.isText) pending := by
  obtain ⟨content, hplaced, houtline⟩ := h.placed
  obtain ⟨front, back, rfl, rfl, hback⟩ := Part.outline_eq_append houtline
  obtain ⟨shape, inner, rest, rfl, rfl⟩ := Part.outline_eq_cons_node hback
  obtain ⟨hcut, hnumbers, hspots⟩ := hplaced.retail (fun _ => []) (by simp) (by simp)
  refine ⟨⟨_, hcut, ?_⟩, ⟨hnumbers ▸ h.same.1, h.same.2⟩, fun n hn => ?_⟩
  · simp [Part.outline_behindFront]
  · obtain ⟨hout, hspot⟩ := h.pending n hn
    refine ⟨hout, ?_⟩
    by_cases hne : n = e
    · subst hne
      have hspot := (Part.mem_spots_of_find? hcut.find?_mid).2
      simpa [Forest.editAt] using hspot
    · rw [if_neg hne]
      exact hspots n _ hne hspot

/-- A change that only moves nodes, with the text behind them, keeps what is pending. -/
theorem of_perm {g : Forest} {content : List Part} (h : Stage start p path tails f cs pending)
    (hplaced : Part.Placed g.parts p path content) (hperm : (spots g.parts).Perm (spots f.parts))
    (hnext : g.next = f.next) : Stage start p path tails g (outline content) pending := by
  refine ⟨⟨content, hplaced, rfl⟩, ⟨(hperm.map Prod.fst).trans h.same.1, hnext.trans h.same.2⟩, ?_⟩
  intro n hn
  exact ⟨(h.pending n hn).1, hperm.mem_iff.mpr (h.pending n hn).2⟩

/-- A pending node is taken out of the place where it stands, and adapted to another: what is
left, and that nothing is lost once the node is put somewhere. -/
theorem take {n : Nat} (hn : n ∈ pending) (h : Stage start p path tails f cs pending)
    (around : Scope) (made : Prefixes) :
    let rest := Part.editAt n (fun _ after => Part.behindFront after) f.parts
    ∃ q after shape inner made', Part.find? n f.parts = some (q, after) ∧
      q.adoptInto around made = (.node n shape inner, made') ∧
      outline (after.takeWhile Part.isText) = tails n ∧
      Part.Fit (.node n shape inner :: after.takeWhile Part.isText) ∧
      (allNumbers (.node n shape inner :: rest)).Nodup ∧
      (∃ content, Part.Placed rest p path content ∧ outline content = without n cs) ∧
      ∀ qs, (spots qs).Perm ((n, outline (after.takeWhile Part.isText)) ::
        (spots inner ++ spots rest)) → (spots qs).Perm (spots f.parts) := by
  intro rest
  obtain ⟨hout, hspot⟩ := h.pending n hn
  obtain ⟨content, hplaced, rfl⟩ := h.placed
  obtain ⟨shape, inner, after, hfind, htail⟩ := Part.find?_of_mem_spots hplaced.distinct hspot
  obtain ⟨shape', inner', made', hadopt, hspots, hfit⟩ :=
    Part.exists_adoptInto n shape inner around made
  obtain ⟨hremoved, hperm⟩ := hplaced.remove hout hfind
  have hfound : Part.Fit ([.node n shape inner] ++ after) := hplaced.fit.find? hfind
  rw [Part.fit_append] at hfound
  refine ⟨_, after, shape', inner', made', hfind, hadopt, htail, ?_, ?_,
    ⟨_, hremoved, Part.outline_remove n content⟩, ?_⟩
  · -- Adopting a node leaves its text behind alone, so that the two still fit.
    exact (Part.fit_append [_] _).mpr ⟨hfit hfound.1, hfound.2.split.1⟩
  · -- The numbers were different before the node was taken, and it takes its own along.
    have hnodup := (hperm.map Prod.fst).nodup_iff.mp hplaced.distinct
    simpa [allNumbers, spots, hspots] using hnodup
  · intro qs hqs
    rw [hspots] at hqs
    exact hqs.trans hperm.symm

/-- A pending node comes into the content, between what stands before and behind. -/
theorem moveInto (before after : List Constituent) {n : Nat} (hn : n ∈ pending)
    (hcs : without n cs = before ++ after) (hafter : after.takeWhile Constituent.isText = [])
    (hself : (nodes after).head? ≠ some n) (h : Stage start p path tails f cs pending) :
    ∃ g, Gives (Forest.moveInto n p (nodes after).head?) f () g ∧
      Stage start p path tails g (before ++ (.node n :: tails n) ++ after) pending := by
  refine ⟨f.move n p (nodes after).head?, ?_, ?_⟩
  · have hne : ((nodes after).head? != some n) = true := by simpa using hself
    refine (gives_get f).bind ?_
    rw [h.isElement]
    refine (gives_get f).bind ?_
    rw [h.not_holds (h.pending n hn).1, if_neg (by simp), if_pos hne]
    exact gives_modify _ f
  · obtain ⟨q, back, shape, inner, made', hfind, hadopt, htail, hfit, hnew,
      ⟨content, hplaced, hcontent⟩, hperm⟩ := h.take hn (f.scopeIn p) (f.madeAt p)
    have htexts := Part.isText_of_mem_takeWhile back
    rw [hcs] at hcontent
    rw [Forest.move, hfind]
    dsimp only
    rw [hadopt]
    -- A node comes in front of the next node of the content, or at the end if there is none. Text
    -- cannot be next, as it belongs to the node in front of it.
    match after with
    | [] =>
      let left := (({ f with made := (f.home p, made') :: f.made }).editAt n
        fun _ after => Part.behindFront after)
      have houtline : outline (content ++ .node n shape inner :: back.takeWhile Part.isText)
          = before ++ (.node n :: tails n) ++ [] := by
        simp [hcontent, htail]
      obtain ⟨happended, hspots⟩ := Part.Placed.append (f := left) htexts hfit hnew hplaced
      rw [← houtline]
      exact h.of_perm happended (hperm _ hspots) rfl
    | .text s :: after => simp [Constituent.isText] at hafter
    | .node a :: after =>
      obtain ⟨front, behind, rfl, rfl, hbehind⟩ := Part.outline_eq_append hcontent
      obtain ⟨shape', inner', rest, rfl, rfl⟩ := Part.outline_eq_cons_node hbehind
      have houtline : outline (front ++ (.node n shape inner :: back.takeWhile Part.isText ++
          .node a shape' inner' :: rest)) = outline front ++ (.node n :: tails n) ++
            .node a :: outline rest := by
        simp [htail]
      obtain ⟨hinserted, hspots⟩ := hplaced.insert htexts hfit hnew
      rw [← houtline]
      exact h.of_perm hinserted (hperm _ hspots) rfl

/-- A pending node is put beside all the trees. -/
theorem release {n : Nat} (hn : n ∈ pending) (h : Stage start p path tails f cs pending) :
    Stage start p path tails (f.release n) (without n cs) pending := by
  obtain ⟨q, back, shape, inner, made', hfind, hadopt, htail, hfit, hnew,
    ⟨content, hplaced, hcontent⟩, hperm⟩ := h.take hn [] (f.madeAt n)
  obtain ⟨hbeside, hspots⟩ := hplaced.beside (Part.isText_of_mem_takeWhile back) hfit hnew
  rw [Forest.release, hfind]
  dsimp only
  rw [hadopt, ← hcontent]
  exact h.of_perm hbeside (hperm _ hspots) rfl

/-! ### Items one after the other -/

/-- Where text that comes behind content goes: to the last node, or in front of everything. -/
inductive EndsAt (before : List Constituent) : List Constituent → Option Nat → Prop
  | node {cs texts : List Constituent} {m : Nat} :
    (∀ c ∈ texts, c.isText) → EndsAt before (cs ++ .node m :: texts) (some m)
  | front {texts : List Constituent} :
    before = [] → (∀ c ∈ texts, c.isText) → EndsAt before texts none

/-- Text does not change which node is the last. -/
theorem EndsAt.text {before : List Constituent} {previous : Option Nat}
    (h : EndsAt before cs previous) (s : String) : EndsAt before (cs ++ [.text s]) previous := by
  have hconcat : ∀ {texts : List Constituent}, (∀ c ∈ texts, c.isText) →
      ∀ c ∈ texts ++ [.text s], c.isText := by
    intro texts htexts c hc
    obtain hc | hc := List.mem_append.mp hc
    · exact htexts c hc
    · rw [List.mem_singleton.mp hc]
      rfl
  cases h with
  | node htexts =>
    rw [List.append_assoc, List.cons_append]
    exact .node (hconcat htexts)
  | front hbefore htexts => exact .front hbefore (hconcat htexts)

/-- Text at the front of what begins with texts. -/
theorem split_texts {texts after : List Constituent} (htexts : ∀ c ∈ texts, c.isText)
    (hafter : after.takeWhile Constituent.isText = []) :
    (texts ++ after).takeWhile Constituent.isText = texts ∧
      (texts ++ after).dropWhile Constituent.isText = after := by
  refine ⟨by rw [List.takeWhile_append_of_pos htexts, hafter, List.append_nil], ?_⟩
  rw [List.dropWhile_append_of_pos htexts]
  simpa [hafter] using List.takeWhile_append_dropWhile (p := Constituent.isText) (l := after)

/-- A text comes behind content. -/
theorem appendText (before after : List Constituent) {previous : Option Nat} {s : String}
    (hs : isLegalText s = true) (hends : EndsAt before cs previous)
    (hafter : after.takeWhile Constituent.isText = [])
    (hprevious : ∀ m ∈ nodes cs, m ∉ pending)
    (h : Stage start p path tails f (before ++ cs ++ after) pending) :
    ∃ g cs', Gives (Forest.appendText p previous s) f () g ∧
      Stage start p path tails g (before ++ cs' ++ after) pending ∧ EndsAt before cs' previous ∧
      letters cs' = letters cs ++ letters [.text s] ∧ nodes cs' = nodes cs ∧
      (before ≠ [] → cs.takeWhile Constituent.isText = [] →
        cs'.takeWhile Constituent.isText = []) := by
  -- A text goes behind the node at the end, or in front of everything if there is none yet.
  cases hends with
  | @node cs texts m htexts =>
    obtain ⟨htake, hdrop⟩ := split_texts htexts hafter
    have hm : m ∉ pending := hprevious m (by simp)
    obtain ⟨t, ht, hstage⟩ := addTailText (before ++ cs) (texts ++ after) hs hm
      (by simpa using h)
    rw [htake] at ht
    rw [hdrop] at hstage
    refine ⟨_, cs ++ [.node m, .text t], (gives_checkText hs f).bind (gives_modify _ f),
      by simpa using hstage, .node (by simp [Constituent.isText]), ?_, ?_, ?_⟩
    · simpa using ht
    · simp [Constituent.nodes_texts htexts]
    · intro _ hfront
      rcases cs with _ | ⟨_ | _, _⟩
      · rfl
      · simp [Constituent.isText] at hfront
      · rfl
  | front hbefore htexts =>
    subst hbefore
    obtain ⟨htake, hdrop⟩ := split_texts htexts hafter
    obtain ⟨t, ht, hstage⟩ := addFrontText hs h
    rw [List.nil_append, htake] at ht
    rw [List.nil_append, hdrop] at hstage
    refine ⟨_, [.text t], (gives_checkText hs f).bind (gives_modify _ f), hstage,
      .front rfl (by simp [Constituent.isText]), ht, ?_, by simp⟩
    simp [Constituent.nodes_texts htexts]

end Stage

/-- The numbers of the nodes among items. -/
def Filling.numbers : List Filling → List Nat
  | [] => []
  | .text _ :: items => numbers items
  | .node n :: items => n :: numbers items

/-- Nothing to insert has no nodes. -/
@[simp] theorem Filling.numbers_nil : numbers [] = [] := rfl

/-- A text to insert has no number. -/
@[simp] theorem Filling.numbers_cons_text (s : String) (items : List Filling) :
    numbers (text s :: items) = numbers items := rfl

/-- A node to insert is counted. -/
@[simp] theorem Filling.numbers_cons_node (n : Nat) (items : List Filling) :
    numbers (node n :: items) = n :: numbers items := rfl

/-- What is inserted may be put together. -/
@[simp] theorem Filling.numbers_append (items items' : List Filling) :
    numbers (items ++ items') = numbers items ++ numbers items' := by
  induction items with
  | nil => rfl
  | cons item items ih => cases item <;> simp [ih]

/-- A node to insert comes at some place among the others. -/
theorem Filling.exists_of_mem_numbers {n : Nat} {items : List Filling} (h : n ∈ numbers items) :
    ∃ first second, items = first ++ node n :: second := by
  induction items with
  | nil => simp at h
  | cons item items ih =>
    cases item with
    | text s =>
      obtain ⟨first, second, rfl⟩ := ih h
      exact ⟨text s :: first, second, rfl⟩
    | node m =>
      obtain rfl | h := List.mem_cons.mp h
      · exact ⟨[], items, rfl⟩
      · obtain ⟨first, second, rfl⟩ := ih h
        exact ⟨node m :: first, second, rfl⟩

/-- An item as content: a text, or a node with what stands behind it. -/
def Filling.expanded (tails : Nat → List Constituent) : Filling → List Constituent
  | .text s => [.text s]
  | .node n => .node n :: tails n

namespace Stage

variable {start f : Forest} {p : Nat} {path pending : List Nat} {tails : Nat → List Constituent}
variable {cs after : List Constituent} {previous : Option Nat}

/-- Items come in one by one, at a place that moves on with every node. -/
theorem insertFrom (items : List Filling) (hlegal : ∀ s, .text s ∈ items → isLegalText s = true)
    (hnodup : (Filling.numbers items).Nodup) (hends : EndsAt [] cs previous)
    (hafter : after.takeWhile Constituent.isText = [])
    (hnew : ∀ n ∈ Filling.numbers items, n ∉ nodes (cs ++ after))
    (h : Stage start p path tails f (cs ++ after) (Filling.numbers items)) :
    ∃ g last cs', Gives (Forest.insertFrom p (nodes cs).length previous items) f last g ∧
      Stage start p path tails g (cs' ++ after) [] ∧ EndsAt [] cs' last ∧
      letters cs' = letters cs ++ letters (items.flatMap (Filling.expanded tails)) := by
  -- By induction on the items, with `cs` what is in place already. Where the next node goes is
  -- found by counting the nodes of `cs`.
  induction items generalizing f cs previous with
  | nil => exact ⟨f, previous, cs, gives_pure _ f, h, hends, by simp⟩
  | cons item items ih =>
    have hrest : ∀ s, .text s ∈ items → isLegalText s = true :=
      fun s hs => hlegal s (List.mem_cons_of_mem _ hs)
    cases item with
    | text s =>
      obtain ⟨g, cs', hgives, hstage, hends', hletters, hnodes, -⟩ :=
        appendText [] after (hlegal s List.mem_cons_self) hends hafter
          (fun m hm hpending => hnew m hpending (by simp [hm])) h
      obtain ⟨g', last, cs'', hgives', hstage', hends'', hletters'⟩ :=
        ih hrest hnodup hends' (by simpa [hnodes] using hnew) hstage
      refine ⟨g', last, cs'', ?_, hstage', hends'', ?_⟩
      · rw [← hnodes]
        exact hgives.bind hgives'
      · rw [hletters', hletters]
        simp [Filling.expanded]
    | node n =>
      rw [Filling.numbers_cons_node, List.nodup_cons] at hnodup
      obtain ⟨hn, hcs⟩ : n ∉ nodes (cs ++ after) ∧
          ∀ m ∈ Filling.numbers items, m ∉ nodes (cs ++ after) := by
        simpa only [Filling.numbers_cons_node, List.forall_mem_cons] using hnew
      have htail : ∀ c ∈ tails n, c.isText :=
        Part.isText_of_mem_spots (h.pending n List.mem_cons_self).2
      have hanchor : (Part.numbers (f.content p))[(nodes cs).length]? = (nodes after).head? := by
        rw [Part.numbers_eq_nodes, h.content_eq, Constituent.nodes_append,
          List.getElem?_append_right (Nat.le_refl _), Nat.sub_self, List.head?_eq_getElem?]
      obtain ⟨g, hgives, hstage⟩ := h.moveInto cs after List.mem_cons_self
        (Constituent.without_of_not_mem fun hmem => hn (Constituent.mem_nodes.mpr hmem)) hafter
        (fun hhead => hn (by simp [List.mem_of_mem_head? hhead]))
      obtain ⟨g', last, cs', hgives', hstage', hends', hletters⟩ :=
        @ih g (cs ++ .node n :: tails n) (some n) hrest hnodup.2 (.node htail)
          (fun m hm => by
            have hmn : m ≠ n := fun heq => hnodup.1 (heq ▸ hm)
            simpa [Constituent.nodes_texts htail, hmn] using hcs m hm)
          (hstage.mono fun m hm => List.mem_cons_of_mem _ hm)
      refine ⟨g', last, cs', ?_, hstage', hends', ?_⟩
      · refine (gives_get f).bind ?_
        rw [hanchor]
        refine hgives.bind ?_
        simpa [Constituent.nodes_texts htail] using hgives'
      · rw [hletters]
        simp [Filling.expanded]

/-- Items come behind content one by one. Of what is in front of it, `before`, nothing is changed
but that nodes are taken out of its nodes. -/
theorem appendAfter {before : List Constituent} {later : List Nat} (items : List Filling)
    (hlegal : ∀ s, .text s ∈ items → isLegalText s = true)
    (hnodup : (Filling.numbers items ++ later).Nodup)
    (hends : ∀ s, items.head? = some (.text s) → EndsAt before cs previous)
    (hbefore : ∀ n ∈ Filling.numbers items, n ∉ nodes before)
    (hnew : ∀ n ∈ Filling.numbers items ++ later, n ∉ nodes cs)
    (h : Stage start p path tails f (before ++ cs) (Filling.numbers items ++ later)) :
    ∃ g cs', Gives (Forest.appendAfter p previous items) f () g ∧
      Stage start p path tails g (before ++ cs') later ∧
      letters cs' = letters cs ++ letters (items.flatMap (Filling.expanded tails)) ∧
      nodes cs' = nodes cs ++ Filling.numbers items ∧
      (before ≠ [] → cs.takeWhile Constituent.isText = [] →
        cs'.takeWhile Constituent.isText = []) := by
  -- By induction on the items, with `cs` what stands behind `before` already. The nodes in `later`
  -- stay pending, for the items that come after these.
  induction items generalizing f cs previous with
  | nil => exact ⟨f, cs, gives_pure _ f, h, by simp, by simp, fun _ hfront => hfront⟩
  | cons item items ih =>
    have hrest : ∀ s, .text s ∈ items → isLegalText s = true :=
      fun s hs => hlegal s (List.mem_cons_of_mem _ hs)
    cases item with
    | text s =>
      obtain ⟨g, cs', hgives, hstage, hends', hletters, hnodes, hfront⟩ :=
        appendText before [] (hlegal s List.mem_cons_self) (hends s rfl) rfl
          (fun m hm hpending => hnew m hpending hm) (by simpa using h)
      obtain ⟨g', cs'', hgives', hstage', hletters', hnodes', hfront'⟩ :=
        ih hrest hnodup (fun _ _ => hends') hbefore (by simpa [hnodes] using hnew)
          (by simpa using hstage)
      refine ⟨g', cs'', hgives.bind hgives', hstage', ?_, by simp [hnodes', hnodes],
        fun hne hempty => hfront' hne (hfront hne hempty)⟩
      rw [hletters', hletters]
      simp [Filling.expanded]
    | node n =>
      rw [Filling.numbers_cons_node, List.cons_append, List.nodup_cons] at hnodup
      obtain ⟨hn, hcs⟩ : n ∉ nodes cs ∧ ∀ m ∈ Filling.numbers items ++ later, m ∉ nodes cs := by
        simpa only [Filling.numbers_cons_node, List.cons_append, List.forall_mem_cons] using hnew
      obtain ⟨hnb, hbefore⟩ : n ∉ nodes before ∧
          ∀ m ∈ Filling.numbers items, m ∉ nodes before := by
        simpa only [Filling.numbers_cons_node, List.forall_mem_cons] using hbefore
      have htail : ∀ c ∈ tails n, c.isText :=
        Part.isText_of_mem_spots (h.pending n List.mem_cons_self).2
      have hwithout : without n (before ++ cs) = before ++ cs ++ [] := by
        rw [List.append_nil]
        refine Constituent.without_of_not_mem fun hmem => ?_
        have := Constituent.mem_nodes.mpr hmem
        simp [hn, hnb] at this
      obtain ⟨g, hgives, hstage⟩ :=
        h.moveInto (before ++ cs) [] List.mem_cons_self hwithout rfl (by simp)
      obtain ⟨g', cs', hgives', hstage', hletters, hnodes, hfront⟩ :=
        @ih g (cs ++ .node n :: tails n) (some n) hrest hnodup.2
          (fun _ _ => .node htail) hbefore
          (fun m hm => by
            have hmn : m ≠ n := fun heq => hnodup.1 (heq ▸ hm)
            simpa [Constituent.nodes_texts htail, hmn] using hcs m hm)
          (by simpa using hstage.mono fun m hm => List.mem_cons_of_mem n hm)
      refine ⟨g', cs', hgives.bind hgives', hstage', ?_, ?_, fun hne hempty => hfront hne ?_⟩
      · rw [hletters]
        simp [Filling.expanded]
      · rw [hnodes]
        simp [Constituent.nodes_texts htail]
      · match cs with
        | [] => rfl
        | .node _ :: _ => rfl
        | .text _ :: _ => simp [Constituent.isText] at hempty

/-- Nodes are moved in behind what was moved in before them. -/
theorem appendAfter_append (p e : Nat) (previous : Option Nat) (first second : List Filling) :
    Forest.appendAfter p previous (first ++ .node e :: second) = (do
      Forest.appendAfter p previous first
      Forest.moveInto e p none
      Forest.appendAfter p (some e) second) := by
  induction first generalizing previous with
  | nil => simp [Forest.appendAfter]
  | cons item first ih => cases item <;> simp [Forest.appendAfter, ih]

/-- Items come behind content of which one is a node already. The node waits where it is until it
is its turn. -/
theorem appendAfter_child {front behind : List Constituent} {e : Nat} (first second : List Filling)
    (hlegal : ∀ s, .text s ∈ first ++ .node e :: second → isLegalText s = true)
    (hdistinct : (Filling.numbers first ++ e :: Filling.numbers second).Nodup)
    (hends : ∀ s, first.head? = some (.text s) →
      EndsAt (front ++ .node e :: tails e) behind previous)
    (hbehind : behind.takeWhile Constituent.isText = [])
    (hapart : ∀ n ∈ Filling.numbers first ++ e :: Filling.numbers second,
      n ∉ nodes front ∧ n ∉ nodes behind)
    (h : Stage start p path tails f (front ++ .node e :: tails e ++ behind)
      (Filling.numbers first ++ e :: Filling.numbers second)) :
    ∃ g cs, Gives (Forest.appendAfter p previous (first ++ .node e :: second)) f () g ∧
      Stage start p path tails g cs [] ∧
      letters cs = letters (front ++ behind ++
        (first ++ .node e :: second).flatMap (Filling.expanded tails)) := by
  have he : e ∈ Filling.numbers first ++ e :: Filling.numbers second := by simp
  have htail : ∀ c ∈ tails e, c.isText := Part.isText_of_mem_spots (h.pending e he).2
  have hrest := List.nodup_cons.mp (List.nodup_middle.mp hdistinct)
  have hne : ∀ n ∈ Filling.numbers first ++ Filling.numbers second, n ≠ e :=
    fun n hn heq => hrest.1 (heq ▸ hn)
  -- The items before the node come behind it.
  obtain ⟨g₁, cs₁, hgives₁, hstage₁, hletters₁, hnodes₁, hfront₁⟩ :=
    h.appendAfter first (fun s hs => hlegal s (List.mem_append_left _ hs)) hdistinct hends
      (fun n hn => by
        have hapart := (hapart n (List.mem_append_left _ hn)).1
        simpa [Constituent.nodes_texts htail, hne n (List.mem_append_left _ hn)] using hapart)
      (fun n hn => (hapart n hn).2)
  -- Then the node goes from its place to the end.
  have hwithout : without e (front ++ .node e :: tails e ++ cs₁) = front ++ cs₁ ++ [] := by
    rw [List.append_assoc, List.cons_append, List.append_nil, Constituent.without_mid,
      (split_texts htail (hfront₁ (by simp) hbehind)).2]
    exact fun hmem => (hapart e he).1 (Constituent.mem_nodes.mpr hmem)
  obtain ⟨g₂, hgives₂, hstage₂⟩ :=
    hstage₁.moveInto (front ++ cs₁) [] List.mem_cons_self hwithout rfl (by simp)
  -- The other items come behind it there.
  have hready : Stage start p path tails g₂ ([] ++ (front ++ cs₁ ++ .node e :: tails e))
      (Filling.numbers second ++ []) := by
    simpa using hstage₂.mono fun n hn => List.mem_cons_of_mem e hn
  obtain ⟨g₃, cs₃, hgives₃, hstage₃, hletters₃, -, -⟩ :=
    hready.appendAfter second
      (fun s hs => hlegal s (List.mem_append_right _ (List.mem_cons_of_mem _ hs)))
      (by simpa using (List.nodup_append.mp hrest.2).2.1) (fun _ _ => .node htail) (by simp)
      (fun n hn => by
        rw [List.append_nil] at hn
        have hapart := hapart n (by simp [hn])
        have hfirst : n ∉ Filling.numbers first :=
          fun hmem => (List.nodup_append.mp hrest.2).2.2 n hmem n hn rfl
        simpa [Constituent.nodes_texts htail, hnodes₁, hfirst, hne n (by simp [hn])] using hapart)
  refine ⟨g₃, cs₃, ?_, hstage₃, ?_⟩
  · rw [appendAfter_append]
    exact hgives₁.bind (hgives₂.bind hgives₃)
  · rw [hletters₃]
    simp [hletters₁, Filling.expanded]

end Stage

end AttrTemplates.Xml
