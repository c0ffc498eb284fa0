import AttrTemplates.Proofs.Template.Outcomes
import AttrTemplates.Proofs.Xml.Reader
import Mathlib.Data.List.TakeWhile

/-!
# `AttrTemplates.Proofs.Template.Fronts`: the text at the front of processed content

When a tag is omitted, the text at the front of its content is put into the parent as a new text,
and it is checked once more. That text was put together from texts of the template and texts that
were inserted. The first are legal because they were read, the others because they were checked
when they came to their place.

`walkNodes_legalFront` says that the check cannot fail then.
-/

set_option autoImplicit false

namespace AttrTemplates

open Xml Run

/-! ### Legal texts -/

/-- A text is allowed if both of its parts are. -/
theorem checkText_append_iff {s t : String} :
    checkText (s ++ t) = .ok () ↔ checkText s = .ok () ∧ checkText t = .ok () := by
  rw [checkText_eq_ok_iff, checkText_eq_ok_iff, checkText_eq_ok_iff, isLegalText_append,
    Bool.and_eq_true_iff]

/-- All texts before the first other node are legal. -/
def LegalFront (ns : List Node) : Prop :=
  ∀ n ∈ ns.takeWhile Node.isText, checkText n.textContent = .ok ()

/-- There is no text in front of nothing. -/
theorem legalFront_nil : LegalFront [] := fun _ hn => nomatch hn

/-- There is no text in front of a node. -/
theorem legalFront_cons_of_not_isText {n : Node} (hn : n.isText = false) (ns : List Node) :
    LegalFront (n :: ns) := by
  unfold LegalFront
  rw [List.takeWhile_cons_of_neg (by rw [hn]; exact Bool.false_ne_true)]
  exact fun _ hm => nomatch hm

/-- A text that is allowed may come in front of a front that is. -/
theorem legalFront_text_cons {s : String} {ns : List Node} (hs : checkText s = .ok ())
    (hns : LegalFront ns) : LegalFront (.text s :: ns) := by
  unfold LegalFront
  rw [List.takeWhile_cons_of_pos rfl]
  exact List.forall_mem_cons.mpr ⟨hs, hns⟩

/-- A front may reach over the first nodes into the next if those are texts alone. -/
theorem LegalFront.append {ms ns : List Node} (hms : LegalFront ms) (hns : LegalFront ns) :
    LegalFront (ms ++ ns) := by
  induction ms with
  | nil => exact hns
  | cons m ms ih =>
    cases m with
    | text s =>
      unfold LegalFront at hms
      rw [List.takeWhile_cons_of_pos rfl, List.forall_mem_cons] at hms
      exact legalFront_text_cons hms.1 (ih hms.2)
    | element | comment | instruction | reference =>
      exact legalFront_cons_of_not_isText rfl _

/-- Fronts may be put together from any number of pieces. -/
theorem legalFront_flatMap {α : Type} {f : α → List Node} {as : List α}
    (h : ∀ a ∈ as, LegalFront (f a)) : LegalFront (as.flatMap f) := by
  induction as with
  | nil => exact legalFront_nil
  | cons a as ih =>
    obtain ⟨ha, has⟩ := List.forall_mem_cons.mp h
    exact ha.append (ih has)

/-- The text in front has no prefixes. -/
theorem legalFront_unprefixedList_iff {ns : List Node} :
    LegalFront (unprefixedList ns) ↔ LegalFront ns := by
  unfold LegalFront
  rw [takeWhile_isText_unprefixedList]

/-- The text at the front is legal just when all texts there are. -/
theorem legalFront_iff {ns : List Node} :
    LegalFront ns ↔ ∀ t, leadingText ns = some t → checkText t = .ok () := by
  -- Texts are allowed one by one if they are allowed as one.
  have hjoin : ∀ ts : List Node, (∀ n ∈ ts, checkText n.textContent = .ok ()) ↔
      checkText (joinTexts ts) = .ok () := by
    intro ts
    induction ts with
    | nil => exact ⟨fun _ => rfl, fun _ _ hn => nomatch hn⟩
    | cons t ts ih =>
      unfold joinTexts at *
      rw [List.forall_mem_cons, ih, List.map_cons, String.join_cons, checkText_append_iff]
  unfold LegalFront leadingText
  rw [hjoin]
  cases ns.takeWhile Node.isText with
  | nil => exact ⟨(fun _ t ht => nomatch ht), fun _ => rfl⟩
  | cons t ts =>
    constructor
    · rintro h _ ht
      cases ht
      exact h
    · exact fun h => h _ rfl

/-- Opened content has the front that it had in its element. -/
theorem legalFront_spread {ns : List Node} (h : LegalFront ns) : LegalFront (spread ns) := by
  -- Behind the leading texts comes no text.
  have hbehind : LegalFront (withoutLeadingText ns) := by
    unfold withoutLeadingText
    cases hrest : ns.dropWhile Node.isText with
    | nil => exact legalFront_nil
    | cons n rest =>
      have hn : n.isText = false := by
        have hhead := List.head?_dropWhile_not Node.isText ns
        rw [hrest] at hhead
        exact hhead
      exact legalFront_cons_of_not_isText hn rest
  have hfront := legalFront_iff.mp h
  unfold spread
  cases htext : leadingText ns with
  | none => exact hbehind
  | some t =>
    show LegalFront ((if t.isEmpty then [] else [.text t]) ++ _)
    split
    · exact hbehind
    · exact (legalFront_text_cons (hfront t htext) legalFront_nil).append hbehind

/-! ### Replies whose texts are told as such -/

/-- Whether an item is told as what it is: a text is not passed on as a node. -/
def Item.isPlain : Item → Bool
  | .node n _ _ _ => !n.isText
  | _ => true

/-- The nodes in content are no texts. -/
theorem itemsOfContent_isPlain (origin : Origin) (outer : Scope) (ns : List Node) :
    ∀ item ∈ itemsOfContent origin outer ns, item.isPlain = true := by
  -- Texts are tails, but for the one at the front, which is an item of its own.
  have hbehind : ∀ p ∈ withTails ns, p.1.isText = false := by
    induction ns with
    | nil => exact fun p hp => nomatch hp
    | cons n ns ih =>
      rw [withTails]
      by_cases hn : n.isText = true
      · rw [if_pos hn]
        exact ih
      · rw [if_neg hn]
        exact List.forall_mem_cons.mpr ⟨Bool.eq_false_iff.mpr hn, ih⟩
  intro item hitem
  rcases List.mem_append.mp hitem with hitem | hitem
  · split at hitem
    · split at hitem
      · cases hitem
      · rw [List.mem_singleton.mp hitem]
        rfl
    · cases hitem
  · obtain ⟨p, hp, rfl⟩ := List.mem_map.mp hitem
    show (!p.1.isText) = true
    rw [hbehind p hp]
    rfl

/-- What is inserted is text as such, and nodes that are none. -/
theorem inserted_isPlain {ev : Expr.Evaluator} {raw : String} {locals globals : Entries}
    {items : List Item} {notes : List Event}
    (h : inserted ev locals globals raw = some (items, notes)) :
    ∀ item ∈ items, item.isPlain = true :=
  forall_inserted (P := fun item => item.isPlain = true) (fun _ => rfl)
    (fun _ _ => itemsOfContent_isPlain _ _ _) (fun _ _ _ => rfl) h

/-- All items in a reply are told as what they are. -/
def Reply.IsPlain : Reply → Prop
  | .becomes _ items => ∀ item ∈ items, item.isPlain = true
  | _ => True

/-- The items of a plain reply are plain. -/
theorem Reply.IsPlain.items {reply : Reply} (h : reply.IsPlain) :
    ∀ item ∈ reply.items, item.isPlain = true := by
  cases reply with
  | stays e locals =>
    intro item hitem
    rw [List.mem_singleton.mp hitem]
    rfl
  | becomes left items =>
    intro item hitem
    obtain ⟨item', hitem', rfl⟩ := List.mem_map.mp hitem
    cases item' with
    | itself => rfl
    | text | node => exact h _ hitem'
  | opens left => exact itemsOfContent_isPlain _ _ _

/-- An item that comes out of a copy is as plain as before. -/
theorem Item.isPlain_ofCopy (item : Item) : item.ofCopy.isPlain = item.isPlain := by
  unfold Item.ofCopy
  split <;> rfl

/-- A node that arrives is text if it was text. -/
theorem Origin.isText_arrival (origin : Origin) (inCopy : Bool) (n : Node) :
    (origin.arrival inCopy n).isText = n.isText := by
  unfold Origin.arrival
  split
  · cases n <;> rfl
  · rfl

/-- The text in front of a plain item that is allowed is one that is allowed. -/
theorem Item.legalFront_standing {item : Item} (hplain : item.isPlain = true)
    (hallowed : item.Allowed) (inCopy : Bool) (self : Element) :
    LegalFront (item.standing inCopy self) := by
  cases item with
  | text s => exact legalFront_text_cons hallowed legalFront_nil
  | node n tail origin outer =>
    have hn : (!n.isText) = true := hplain
    refine legalFront_cons_of_not_isText ?_ _
    rw [leavesText_unprefixed.isText, origin.isText_arrival]
    rwa [Bool.not_eq_true'] at hn
  | itself => exact legalFront_cons_of_not_isText rfl _

/-- What stands in the place of a processed element has a legal front. -/
theorem Reply.legalFront_standing {reply : Reply} (hplain : reply.IsPlain)
    (hallowed : reply.Allowed) (inCopy : Bool) : LegalFront (reply.standing inCopy) := by
  cases reply with
  | stays e locals => exact legalFront_cons_of_not_isText rfl _
  | becomes left items =>
    exact legalFront_flatMap fun item hitem =>
      Item.legalFront_standing (hplain item hitem) (hallowed item hitem) inCopy left
  | opens left =>
    exact legalFront_spread (legalFront_unprefixedList_iff.mpr (legalFront_iff.mpr hallowed))

section

variable {permitted : Call → Bool} {ev : Expr.Evaluator} {walk : Walk} {s s' : RunState}

/-- By induction on the items: the results of a loop are those of its walks, all of them plain. -/
theorem repeatFrom_isPlain
    (hwalk : ∀ {site s reply s'}, (walk site).Gives s reply s' → reply.IsPlain)
    {copy : Element} {locals loops : Entries} {name : String} {length index : Nat}
    {items : List Value} {results : List Item}
    (h : (repeatFrom walk copy locals loops name length index items).Gives s results s') :
    ∀ item ∈ results, item.isPlain = true := by
  induction items generalizing index s results with
  | nil =>
    obtain ⟨rfl, -⟩ := repeatFrom_nil_gives_iff.mp h
    exact fun item hitem => nomatch hitem
  | cons item items ih =>
    obtain ⟨reply, s₁, rest, hreply, hrest, rfl⟩ := repeatFrom_cons_gives_iff.mp h
    refine List.forall_mem_append.mpr ⟨fun item hitem => ?_, ih hrest⟩
    obtain ⟨item', hitem', rfl⟩ := List.mem_map.mp hitem
    rw [item'.isPlain_ofCopy]
    exact (hwalk hreply).items item' hitem'

/-- Each directive replies with the element, with what is inserted, or with what its walks reply. -/
theorem handle_isPlain
    (hwalk : ∀ {site s reply s'}, (walk site).Gives s reply s' → reply.IsPlain)
    {d : Directive} {raw : String} {site : Site} {reply : Reply}
    (h : (d.handle ev walk raw site).Gives s reply s') : reply.IsPlain := by
  -- Items come from repetitions and from insertions only.
  cases d with
  | define =>
    obtain ⟨locals, -, rfl⟩ := define_gives_iff.mp h
    trivial
  | condition =>
    obtain ⟨v, -, rfl⟩ := condition_gives_iff.mp h
    split
    · trivial
    · exact fun item hitem => nomatch hitem
  | repetition =>
    obtain ⟨a, v, s₁, -, -, hrest⟩ := repetition_gives_iff.mp h
    split at hrest
    · obtain ⟨items, loops, results, -, -, hresults, rfl⟩ := hrest
      exact repeatFrom_isPlain hwalk hresults
    · obtain ⟨rfl, -⟩ := hrest
      exact fun item hitem => nomatch hitem
  | content =>
    obtain ⟨items, notes, s₁, children, -, -, -, rfl⟩ := content_gives_iff.mp h
    trivial
  | replace =>
    obtain ⟨items, notes, hitems, -, rfl⟩ := replace_gives_iff.mp h
    exact inserted_isPlain hitems
  | attributes =>
    obtain ⟨e, -, rfl⟩ := attributes_gives_iff.mp h
    trivial
  | omitTag =>
    obtain ⟨out, notes, -, hrest⟩ := omitTag_gives_iff.mp h
    cases out with
    | true =>
      obtain ⟨children, -, rfl⟩ := hrest
      trivial
    | false =>
      obtain ⟨rfl, -⟩ := hrest
      trivial

/-- By recursion on the directives: the one that is done with the element replies. -/
theorem handleDirectives_isPlain
    (hwalk : ∀ {site s reply s'}, (walk site).Gives s reply s' → reply.IsPlain)
    {site : Site} {waiting left : List (String × String)} {ds : List Directive} {reply : Reply}
    (h : (handleDirectives permitted ev walk site waiting ds).Gives s (.done reply, left) s') :
    reply.IsPlain := by
  induction ds generalizing site waiting s with
  | nil =>
    obtain ⟨hprogress, -⟩ := handleDirectives_nil_gives_iff.mp h
    cases hprogress
  | cons d ds ih =>
    obtain ⟨-, hrest⟩ | ⟨raw, reply', s₁, -, -, hhandle, hrest⟩ :=
      handleDirectives_cons_gives_iff.mp h
    · exact ih hrest
    · have hplain := handle_isPlain hwalk hhandle
      -- Only a reply that does away with the element ends the handling here.
      cases reply' with
      | stays e locals => exact ih hrest
      | becomes | opens =>
        obtain ⟨hprogress, -⟩ := hrest
        cases hprogress
        exact hplain

/-- Replies to processed elements tell texts as such. -/
theorem permittedWalk_isPlain {fuel : Nat} {site : Site} {reply : Reply}
    (h : (permittedWalk permitted ev fuel site).Gives s reply s') : reply.IsPlain := by
  induction fuel generalizing site s reply s' with
  | zero => exact (gives_throw_iff.mp h).elim
  | succ fuel ih =>
    obtain ⟨progress, left, s₁, hdirectives, hrest⟩ := permittedWalk_succ_gives_iff.mp h
    cases progress with
    | done r =>
      obtain ⟨rfl, -⟩ := hrest
      exact handleDirectives_isPlain ih hdirectives
    | on here =>
      obtain ⟨children, -, rfl⟩ := hrest
      trivial

/-- If the texts among nodes are legal, processing them leaves a legal front. -/
theorem walkNodes_legalFront {fuel : Nat} {scope : Scope} {locals : Entries}
    {ns out : List Node}
    (h : (walkNodes (permittedWalk permitted ev fuel) scope locals ns).Gives s out s')
    (hlegal : ∀ t, .text t ∈ ns → checkText t = .ok ()) : LegalFront out := by
  induction ns generalizing s out with
  | nil =>
    obtain ⟨rfl, -⟩ := walkNodes_nil_gives_iff.mp h
    exact legalFront_nil
  | cons n ns ih =>
    have hns : ∀ t, .text t ∈ ns → checkText t = .ok () :=
      fun t ht => hlegal t (List.mem_cons_of_mem n ht)
    cases n with
    | element tag children =>
      obtain ⟨reply, s₁, here, s₂, rest, hreply, hhere, hrest, rfl⟩ :=
        walkNodes_element_gives_iff.mp h
      obtain ⟨hnodes, hallowed, -⟩ := Reply.place_gives hhere
      -- What stands for an element was checked when it came to its place.
      have hfront : LegalFront here := by
        rw [← legalFront_unprefixedList_iff, hnodes]
        exact Reply.legalFront_standing (permittedWalk_isPlain hreply) hallowed _
      exact hfront.append (ih hrest hns)
    | text t =>
      obtain ⟨rest, hrest, rfl⟩ := (walkNodes_other_gives_iff rfl).mp h
      exact legalFront_text_cons (hlegal t List.mem_cons_self) (ih hrest hns)
    | comment | instruction | reference =>
      obtain ⟨rest, -, rfl⟩ := (walkNodes_other_gives_iff rfl).mp h
      exact legalFront_cons_of_not_isText rfl rest

end

end AttrTemplates
