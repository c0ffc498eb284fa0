import AttrTemplates.Proofs.Run
import AttrTemplates.Proofs.Xml.Unprefixed

/-!
# `AttrTemplates.Proofs.Template.Placement`: what stands in the place of an element

Items are adapted to the place they come to: names take other prefixes, prefixes are made up.
What stands there afterwards is known before, up to prefixes and declarations. `Item.standing`
and `Reply.standing` are these nodes.

* `settleAll_gives` and `Reply.place_gives` say that nothing else comes to the place, and that nothing
  else happens but that prefixes are made up.
* `settleAll_succeeds` and `Reply.place_succeeds` say that only texts which no document may hold can
  keep items from their place.
* `runs_spread`: content that is put in the place of its element is the same content, when
  adjacent texts count as one.
-/

set_option autoImplicit false

namespace AttrTemplates

open Xml Run

/-- A node that is an element, as a node. -/
theorem Xml.Node.eq_toNode {n : Node} {e : Element} (h : n.element? = some e) : n = e.toNode := by
  cases n with
  | element tag children =>
    cases h
    rfl
  | comment | instruction | reference | text => cases h

/-! ### Content in the place of its element -/

/-- Content as it stands after its element has been opened: the text at its front in one piece. -/
def spread (ns : List Node) : List Node :=
  (match leadingText ns with
    | some s => if s.isEmpty then [] else [.text s]
    | none => [])
  ++ withoutLeadingText ns

/-- An empty text adds nothing in front. -/
theorem consText_empty (ps : List Piece) : Piece.consText "" ps = ps := by
  cases ps with
  | nil => rfl
  | cons p ps =>
    cases p with
    | text t =>
      show Piece.text ("" ++ t) :: ps = Piece.text t :: ps
      rw [String.empty_append]
    | node n => rfl

/-- Texts put before pieces one after the other are one text put before them. -/
theorem consText_consText (s t : String) (ps : List Piece) :
    Piece.consText s (Piece.consText t ps) = Piece.consText (s ++ t) ps := by
  by_cases ht : t = ""
  · subst ht
    rw [consText_empty, String.append_empty]
  · -- Empty texts are no pieces, so the only question is whether the texts are empty.
    have hst : (s ++ t).isEmpty = false := by
      rw [String.isEmpty_eq_false_iff, Ne, String.append_eq_empty_iff]
      exact fun h => ht h.2
    have ht' : t.isEmpty = false := String.isEmpty_eq_false_iff.mpr ht
    cases ps with
    | nil => simp only [Piece.consText, ht', hst, Bool.false_eq_true, if_false]
    | cons p ps =>
      cases p with
      | text u => simp only [Piece.consText, String.append_assoc]
      | node n => simp only [Piece.consText, ht', hst, Bool.false_eq_true, if_false]

/-- A node that is no text is a piece of its own. -/
theorem runs_cons_of_not_isText {n : Node} (hn : n.isText = false) (ns : List Node) :
    runs (n :: ns) = .node n :: runs ns := by
  cases n with
  | text s => cases hn
  | element | comment | instruction | reference => rfl

/-- Pieces followed by pieces: a text at the end and a text at the front become one. -/
def joinPieces : List Piece → List Piece → List Piece
  | [], qs => qs
  | [.text s], qs => Piece.consText s qs
  | p :: ps, qs => p :: joinPieces ps qs

/-- Text in front of pieces may be added before they are joined with others or afterwards. -/
theorem joinPieces_consText (s : String) (ps qs : List Piece) :
    joinPieces (Piece.consText s ps) qs = Piece.consText s (joinPieces ps qs) := by
  -- Pieces are joined at the last of them, so it matters whether the text is that one.
  cases ps with
  | nil =>
    by_cases hs : s = ""
    · subst hs
      rw [consText_empty, consText_empty]
    · have hs' : s.isEmpty = false := String.isEmpty_eq_false_iff.mpr hs
      simp only [Piece.consText, hs', Bool.false_eq_true, if_false, joinPieces]
  | cons p ps =>
    cases p with
    | text t =>
      cases ps with
      | nil => exact (consText_consText s t qs).symm
      | cons p ps => rfl
    | node n =>
      by_cases hs : s = ""
      · subst hs
        rw [consText_empty, consText_empty]
      · have hs' : s.isEmpty = false := String.isEmpty_eq_false_iff.mpr hs
        simp only [Piece.consText, hs', Bool.false_eq_true, if_false, joinPieces]

/-- The pieces of content depend on the pieces of its parts alone. -/
theorem runs_append (ms ns : List Node) : runs (ms ++ ns) = joinPieces (runs ms) (runs ns) := by
  induction ms with
  | nil => rfl
  | cons m ms ih =>
    cases m with
    | text s =>
      show Piece.consText s (runs (ms ++ ns)) = _
      rw [ih, ← joinPieces_consText]
      rfl
    | element | comment | instruction | reference =>
      rw [List.cons_append, runs_cons_of_not_isText rfl, runs_cons_of_not_isText rfl, ih]
      rfl

/-- Texts are one run. -/
theorem runs_texts {ts : List Node} (hts : ∀ t ∈ ts, t.isText = true) :
    runs ts = Piece.consText (joinTexts ts) [] := by
  induction ts with
  | nil => rfl
  | cons t ts ih =>
    cases t with
    | text s =>
      show Piece.consText s (runs ts) = _
      rw [ih fun t ht => hts t (List.mem_cons_of_mem _ ht), consText_consText]
      unfold joinTexts
      rw [List.map_cons, String.join_cons]
      rfl
    | element | comment | instruction | reference =>
      exact absurd (hts _ List.mem_cons_self) Bool.false_ne_true

/-- The tag of an element among pieces. -/
def Piece.tag? : Piece → Option Tag
  | .text _ => none
  | .node n => n.element?.map Element.tag

/-- The tags of the elements in content, in their order. -/
def tagsIn (ns : List Node) : List Tag := ns.filterMap fun n => n.element?.map Element.tag

/-- Texts are merged and dropped, but elements are not: the pieces of content have their tags. -/
theorem filterMap_tag?_runs (ns : List Node) : (runs ns).filterMap Piece.tag? = tagsIn ns := by
  have hconsText (s : String) (ps : List Piece) :
      (Piece.consText s ps).filterMap Piece.tag? = ps.filterMap Piece.tag? := by
    unfold Piece.consText
    split
    · rfl
    · split <;> rfl
  unfold tagsIn
  induction ns with
  | nil => rfl
  | cons n ns ih =>
    cases n with
    | text s => exact (hconsText s (runs ns)).trans ih
    | element | comment | instruction | reference =>
      rw [runs_cons_of_not_isText rfl, List.filterMap_cons, List.filterMap_cons, ih]
      rfl

/-- Content with other tags in it is other content. -/
theorem runs_ne_of_tagsIn_ne {ms ns : List Node} (h : tagsIn ms ≠ tagsIn ns) : runs ms ≠ runs ns :=
  fun hruns => h (by rw [← filterMap_tag?_runs, hruns, filterMap_tag?_runs])

/-- Opened content has the pieces that it had in its element. -/
theorem runs_spread (ns : List Node) : runs (spread ns) = runs ns := by
  have hfront : runs (match leadingText ns with
      | some s => if s.isEmpty then [] else [Node.text s]
      | none => []) = runs (ns.takeWhile Node.isText) := by
    rw [runs_texts (List.all_eq_true.mp List.all_takeWhile)]
    unfold leadingText
    cases ns.takeWhile Node.isText with
    | nil => rfl
    | cons t ts =>
      show runs (if (joinTexts (t :: ts)).isEmpty then [] else _) = _
      split <;> simp_all [runs, Piece.consText]
  -- Both are cut behind the leading texts, and the runs of the front are the same.
  unfold spread
  rw [runs_append, hfront, ← runs_append]
  exact congrArg runs List.takeWhile_append_dropWhile

/-- Nodes with the text behind them are all but the text in front. -/
theorem flatMap_withTails (ns : List Node) :
    (withTails ns).flatMap (fun p => p.1 :: p.2) = withoutLeadingText ns := by
  induction ns with
  | nil => rfl
  | cons n ns ih =>
    unfold withoutLeadingText at *
    rw [withTails, List.dropWhile_cons]
    split
    · exact ih
    · rw [List.flatMap_cons, ih, List.cons_append, List.takeWhile_append_dropWhile]

/-! ### Items in their place -/

/-- Whether an item is the element that it is an answer for. -/
def Item.isItself : Item → Bool
  | .itself => true
  | _ => false

/-- An item that is not the element itself stands for what it is. -/
theorem Item.resolve_of_not_itself {item : Item} (h : item.isItself = false) (self : Element) :
    item.resolve self = item := by
  cases item with
  | text | node => rfl
  | itself => cases h

/-- Where no item is the element itself there is nothing to resolve. -/
theorem map_resolve_of_not_itself {items : List Item}
    (h : ∀ item ∈ items, item.isItself = false) (self : Element) :
    items.map (Item.resolve self) = items :=
  (List.map_congr_left fun item hitem => Item.resolve_of_not_itself (h item hitem) self).trans
    (List.map_id _)

/-- What content is made of is not the element itself. -/
theorem itemsOfContent_not_itself {origin : Origin} {outer : Scope} {ns : List Node} :
    ∀ item ∈ itemsOfContent origin outer ns, item.isItself = false := by
  intro item hitem
  rcases List.mem_append.mp hitem with hitem | hitem
  · split at hitem
    · split at hitem
      · cases hitem
      · rw [List.mem_singleton.mp hitem]
        rfl
    · cases hitem
  · obtain ⟨p, -, rfl⟩ := List.mem_map.mp hitem
    rfl

/-- The items of an element without a parent are told without reference to it. -/
theorem Reply.items_not_itself (reply : Reply) : ∀ item ∈ reply.items, item.isItself = false := by
  intro item hitem
  cases reply with
  | stays e locals =>
    rw [List.mem_singleton.mp hitem]
    rfl
  | becomes left items =>
    obtain ⟨item', -, rfl⟩ := List.mem_map.mp hitem
    cases item' <;> rfl
  | opens left => exact itemsOfContent_not_itself item hitem

/-- It is not so in a copy either. -/
theorem Item.ofCopy_not_itself {item : Item} (h : item.isItself = false) :
    item.ofCopy.isItself = false := by
  unfold Item.ofCopy
  split
  · rfl
  · exact h

/-- The nodes of an item at the place it comes to, without their prefixes. `self` is the element
that was there. -/
def Item.standing (inCopy : Bool) (self : Element) (item : Item) : List Node :=
  match item.resolve self with
  | .text s => [.text s]
  | .node n tail origin _ => (origin.arrival inCopy n).unprefixed :: unprefixedList tail
  | .itself => []

/-- What stands there does not depend on the element, unless an item is the element. -/
theorem flatMap_standing_of_not_itself {items : List Item}
    (h : ∀ item ∈ items, item.isItself = false) (inCopy : Bool) (self self' : Element) :
    items.flatMap (Item.standing inCopy self) = items.flatMap (Item.standing inCopy self') := by
  rw [List.flatMap_def, List.flatMap_def]
  refine congrArg List.flatten (List.map_congr_left fun item hitem => ?_)
  unfold Item.standing
  rw [Item.resolve_of_not_itself (h item hitem), Item.resolve_of_not_itself (h item hitem)]

/-- An item that can come to a place: a document may hold its text. -/
def Item.Allowed : Item → Prop
  | .text s => checkText s = .ok ()
  | _ => True

section

variable {scope : Scope} {self : Element} {s s' : RunState} {nodes : List Node}

/-- A text is settled if its characters are allowed, and changes nothing. -/
theorem settle_text_gives_iff {t : String} :
    ((Item.text t).settle scope self).Gives s nodes s' ↔
      checkText t = .ok () ∧ nodes = [.text t] ∧ s' = s := by
  show ((liftM (checkText t) : Run Unit) >>= fun _ => pure [.text t]).Gives s nodes s' ↔ _
  simp only [gives_bind_iff, gives_lift_iff, gives_pure_iff]
  constructor
  · rintro ⟨_, _, ⟨hcheck, rfl⟩, rfl, rfl⟩
    exact ⟨hcheck, rfl, rfl⟩
  · rintro ⟨hcheck, rfl, rfl⟩
    exact ⟨(), s', ⟨hcheck, rfl⟩, rfl, rfl⟩

/-- A node comes to its place in a move. -/
theorem settle_node_gives_iff {n : Node} {tail : List Node} {origin : Origin} {outer : Scope} :
    ((Item.node n tail origin outer).settle scope self).Gives s nodes s' ↔
      nodes = ((origin.arrival s.inCopy n).adoptInto scope s.made).1 :: tail
        ∧ s' = { s with made := ((origin.arrival s.inCopy n).adoptInto scope s.made).2 } := by
  constructor
  · intro h
    cases h
    exact ⟨rfl, rfl⟩
  · rintro ⟨rfl, rfl⟩
    rfl

/-- The element itself is settled like a node with no text behind it. -/
theorem settle_itself :
    Item.itself.settle scope self = (Item.node self.toNode [] .here []).settle scope self :=
  rfl

/-- An item in its place is what it was, and its text passed the check. -/
theorem Item.settle_gives {item : Item} (h : (item.settle scope self).Gives s nodes s') :
    unprefixedList nodes = item.standing s.inCopy self ∧ item.Allowed ∧ s.SameButMade s' := by
  cases item with
  | text t =>
    obtain ⟨hcheck, rfl, rfl⟩ := settle_text_gives_iff.mp h
    exact ⟨rfl, hcheck, .rfl⟩
  | node n tail origin outer =>
    obtain ⟨rfl, rfl⟩ := settle_node_gives_iff.mp h
    rw [unprefixedList, Node.unprefixed_adoptInto]
    exact ⟨rfl, trivial, rfl⟩
  | itself =>
    rw [settle_itself] at h
    obtain ⟨rfl, rfl⟩ := settle_node_gives_iff.mp h
    rw [unprefixedList, Node.unprefixed_adoptInto]
    exact ⟨rfl, trivial, rfl⟩

/-- Nothing else keeps an item from its place. -/
theorem Item.settle_succeeds (scope : Scope) (self : Element) (s : RunState) {item : Item}
    (h : item.Allowed) : ∃ nodes s', (item.settle scope self).Gives s nodes s' := by
  cases item with
  | text t => exact ⟨_, _, settle_text_gives_iff.mpr ⟨h, rfl, rfl⟩⟩
  | node n tail origin outer => exact ⟨_, _, settle_node_gives_iff.mpr ⟨rfl, rfl⟩⟩
  | itself =>
    rw [settle_itself]
    exact ⟨_, _, settle_node_gives_iff.mpr ⟨rfl, rfl⟩⟩

/-- Items in their place are what they were, in order, and their texts passed the check. -/
theorem settleAll_gives {items : List Item} (h : (settleAll scope self items).Gives s nodes s') :
    unprefixedList nodes = items.flatMap (Item.standing s.inCopy self)
      ∧ (∀ item ∈ items, item.Allowed) ∧ s.SameButMade s' := by
  induction items generalizing s nodes with
  | nil =>
    obtain ⟨rfl, rfl⟩ := gives_pure_iff.mp h
    exact ⟨rfl, (fun item hitem => nomatch hitem), .rfl⟩
  | cons item items ih =>
    simp only [settleAll, gives_bind_iff, gives_pure_iff] at h
    obtain ⟨here, s₁, hhere, rest, _, hrest, rfl, rfl⟩ := h
    obtain ⟨hnodes₁, hitem, hs₁⟩ := Item.settle_gives hhere
    obtain ⟨hnodes₂, hitems, hs₂⟩ := ih hrest
    refine ⟨?_, List.forall_mem_cons.mpr ⟨hitem, hitems⟩, hs₁.trans hs₂⟩
    -- Settling makes up prefixes at most, so the other items arrive in the same document.
    rw [unprefixedList_append, hnodes₁, hnodes₂, hs₁.calm.inCopy, List.flatMap_cons]

/-- Nothing else keeps items from their place. -/
theorem settleAll_succeeds (scope : Scope) (self : Element) (s : RunState) {items : List Item}
    (h : ∀ item ∈ items, item.Allowed) :
    ∃ nodes s', (settleAll scope self items).Gives s nodes s' := by
  induction items generalizing s with
  | nil => exact ⟨[], s, rfl⟩
  | cons item items ih =>
    obtain ⟨hitem, hitems⟩ := List.forall_mem_cons.mp h
    obtain ⟨here, s₁, hhere⟩ := Item.settle_succeeds scope self s hitem
    obtain ⟨rest, s₂, hrest⟩ := ih s₁ hitems
    refine ⟨here ++ rest, s₂, ?_⟩
    simp only [settleAll, gives_bind_iff, gives_pure_iff]
    exact ⟨here, s₁, hhere, rest, s₂, hrest, rfl, rfl⟩

/-- What is read off the items of content: the text at its front, when there is any, and each
node with its tail. -/
theorem flatMap_itemsOfContent {α : Type} (f : Item → List α) (origin : Origin) (outer : Scope)
    (ns : List Node) :
    (itemsOfContent origin outer ns).flatMap f
      = (match leadingText ns with
          | some s => if s.isEmpty then [] else f (.text s)
          | none => [])
        ++ (withTails ns).flatMap fun p => f (.node p.1 p.2 origin outer) := by
  unfold itemsOfContent
  rw [List.flatMap_append, List.flatMap_map]
  refine congrArg (· ++ _) ?_
  cases leadingText ns with
  | none => rfl
  | some s =>
    show (if s.isEmpty then [] else [Item.text s]).flatMap f = if s.isEmpty then [] else _
    split
    · rfl
    · exact List.append_nil _

/-- Content stands in its place with its text in front joined. -/
theorem standing_itemsOfContent (inCopy : Bool) (self : Element) (outer : Scope)
    (ns : List Node) :
    (itemsOfContent .here outer ns).flatMap (Item.standing inCopy self)
      = spread (unprefixedList ns) := by
  rw [flatMap_itemsOfContent]
  unfold spread
  rw [leadingText_unprefixedList, withoutLeadingText_unprefixedList, ← flatMap_withTails]
  refine congrArg (_ ++ ·) ?_
  rw [unprefixedList_eq_map, List.map_flatMap]
  refine congrArg (fun f => (withTails ns).flatMap f) (funext fun p => ?_)
  show p.1.unprefixed :: unprefixedList p.2 = _
  rw [unprefixedList_eq_map, List.map_cons]

/-- Content may be settled if its text in front may. -/
theorem allowed_itemsOfContent_iff {origin : Origin} {outer : Scope} {ns : List Node} :
    (∀ item ∈ itemsOfContent origin outer ns, item.Allowed) ↔
      ∀ t, leadingText ns = some t → checkText t = .ok () := by
  have hbehind : ∀ item ∈ (withTails ns).map (fun p => Item.node p.1 p.2 origin outer),
      item.Allowed := by
    intro item hitem
    obtain ⟨p, -, rfl⟩ := List.mem_map.mp hitem
    trivial
  have hfront : ∀ front : Option String,
      (∀ item ∈ (match front with
        | some s => if s.isEmpty then [] else [Item.text s]
        | none => [] : List Item), item.Allowed) ↔
      ∀ t, front = some t → checkText t = .ok () := by
    intro front
    cases front with
    | none => exact ⟨(fun _ t ht => nomatch ht), (fun _ item hitem => nomatch hitem)⟩
    | some u =>
      -- An empty text in front is dropped. It would have passed the check.
      by_cases hu : u = ""
      · subst hu
        refine ⟨fun _ t ht => ?_, fun _ item hitem => nomatch hitem⟩
        cases ht
        rfl
      · have hu' : u.isEmpty = false := String.isEmpty_eq_false_iff.mpr hu
        simp only [hu', Bool.false_eq_true, if_false, List.mem_singleton, forall_eq,
          Option.some.injEq, forall_eq', Item.Allowed]
  rw [← hfront (leadingText ns)]
  constructor
  · exact fun h item hitem => h item (List.mem_append_left _ hitem)
  · intro h item hitem
    rcases List.mem_append.mp hitem with hitem | hitem
    · exact h item hitem
    · exact hbehind item hitem

/-! ### Replies in their place -/

/-- The nodes that stand in the place of a processed element, without their prefixes. -/
def Reply.standing (inCopy : Bool) : Reply → List Node
  | .stays e _ => [e.toNode.unprefixed]
  | .becomes left items => items.flatMap (Item.standing inCopy left)
  | .opens left => spread (unprefixedList left.children)

/-- A reply that can come to the place of the element: a document may hold its texts. -/
def Reply.Allowed : Reply → Prop
  | .stays _ _ => True
  | .becomes _ items => ∀ item ∈ items, item.Allowed
  | .opens left => ∀ t, leadingText left.children = some t → checkText t = .ok ()

/-- An element is taken out with the prefixes that have been made up by then. -/
theorem takeOut_gives_iff {e e' : Element} :
    (takeOut e).Gives s e' s' ↔
      e' = (e.takenOut s.made).1 ∧ s' = { s with made := (e.takenOut s.made).2 } := by
  constructor
  · intro h
    cases h
    exact ⟨rfl, rfl⟩
  · rintro ⟨rfl, rfl⟩
    rfl

/-- An item stands for the same if the element was taken out, but for prefixes. -/
theorem Item.standing_takenOut (inCopy : Bool) (e : Element) (made : Prefixes) (item : Item) :
    item.standing inCopy (e.takenOut made).1 = item.standing inCopy e := by
  cases item with
  | text | node => rfl
  | itself =>
    show [(e.takenOut made).1.toNode.unprefixed] = [e.toNode.unprefixed]
    rw [e.unprefixed_takenOut]

/-- The children of an element that was taken out are the same, but for prefixes. -/
theorem Element.unprefixedList_takenOut (made : Prefixes) (e : Element) :
    unprefixedList (e.takenOut made).1.children = unprefixedList e.children := by
  have h := e.unprefixed_takenOut made
  exact (Node.element.inj h).2

/-- The nodes in the place of a processed element are those that the reply tells. -/
theorem Reply.place_gives {reply : Reply} (h : (reply.place scope).Gives s nodes s') :
    unprefixedList nodes = reply.standing s.inCopy ∧ reply.Allowed ∧ s.SameButMade s' := by
  cases reply with
  | stays e locals =>
    obtain ⟨rfl, rfl⟩ := gives_pure_iff.mp h
    exact ⟨rfl, trivial, .rfl⟩
  | becomes left items =>
    obtain ⟨_, _, htaken, h⟩ := gives_bind_iff.mp h
    obtain ⟨rfl, rfl⟩ := takeOut_gives_iff.mp htaken
    obtain ⟨hnodes, hallowed, hs⟩ := settleAll_gives h
    refine ⟨?_, hallowed, hs⟩
    rw [hnodes]
    exact congrArg (fun f => items.flatMap f) (funext fun item => item.standing_takenOut _ _ _)
  | opens left =>
    obtain ⟨_, _, htaken, h⟩ := gives_bind_iff.mp h
    obtain ⟨rfl, rfl⟩ := takeOut_gives_iff.mp htaken
    obtain ⟨hnodes, hallowed, hs⟩ := settleAll_gives h
    -- The content is that of the element once it has been taken out, which differs in prefixes
    -- only.
    rw [allowed_itemsOfContent_iff, ← leadingText_unprefixedList,
      Element.unprefixedList_takenOut, leadingText_unprefixedList] at hallowed
    refine ⟨?_, hallowed, hs⟩
    rw [hnodes, standing_itemsOfContent, Element.unprefixedList_takenOut]
    rfl

/-- Nothing but its texts keeps a reply from the place of the element. -/
theorem Reply.place_succeeds (scope : Scope) (s : RunState) {reply : Reply}
    (h : reply.Allowed) : ∃ nodes s', (reply.place scope).Gives s nodes s' := by
  cases reply with
  | stays e locals => exact ⟨_, _, gives_pure_iff.mpr ⟨rfl, rfl⟩⟩
  | becomes left items =>
    obtain ⟨nodes, s', h⟩ := settleAll_succeeds scope (left.takenOut s.made).1
      { s with made := (left.takenOut s.made).2 } h
    exact ⟨nodes, s', gives_bind_iff.mpr ⟨_, _, takeOut_gives_iff.mpr ⟨rfl, rfl⟩, h⟩⟩
  | opens left =>
    have hallowed : ∀ item ∈ itemsOfContent .here [] (left.takenOut s.made).1.children,
        item.Allowed := by
      rwa [allowed_itemsOfContent_iff, ← leadingText_unprefixedList,
        Element.unprefixedList_takenOut, leadingText_unprefixedList]
    obtain ⟨nodes, s', h⟩ := settleAll_succeeds scope (left.takenOut s.made).1
      { s with made := (left.takenOut s.made).2 } hallowed
    exact ⟨nodes, s', gives_bind_iff.mpr ⟨_, _, takeOut_gives_iff.mpr ⟨rfl, rfl⟩, h⟩⟩

/-- To empty out children makes up prefixes at most. -/
theorem emptyOut_gives {ns : List Node} {u : Unit} (h : (emptyOut ns).Gives s u s') :
    s.SameButMade s' := by
  induction ns generalizing s with
  | nil =>
    obtain ⟨-, rfl⟩ := gives_pure_iff.mp h
    exact .rfl
  | cons n ns ih =>
    obtain ⟨_, _, hmodify, h⟩ := gives_bind_iff.mp h
    obtain rfl := gives_modify_iff.mp hmodify
    have hs := ih h
    exact hs

/-- Children can always be emptied out. -/
theorem emptyOut_succeeds (s : RunState) (ns : List Node) :
    ∃ s', (emptyOut ns).Gives s () s' := by
  induction ns generalizing s with
  | nil => exact ⟨s, gives_pure_iff.mpr ⟨rfl, rfl⟩⟩
  | cons n ns ih =>
    obtain ⟨s', h⟩ := ih { s with made := (n.adoptInto [] s.made).2 }
    exact ⟨s', gives_bind_iff.mpr ⟨(), _, gives_modify_iff.mpr rfl, h⟩⟩

end

end AttrTemplates
