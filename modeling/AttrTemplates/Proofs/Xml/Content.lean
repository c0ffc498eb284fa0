import AttrTemplates.Xml.Node

/-!
# `AttrTemplates.Proofs.Xml.Content`: changes that leave text alone

Many a change is made of all nodes of a content, and touches no text among them. Then the text that a
content begins with is the same afterwards (`LeavesText.leadingText_map`), and the text behind each
node follows the changed node (`LeavesText.withTails_map`).
-/

set_option autoImplicit false

namespace AttrTemplates.Xml

/-- A change of nodes that leaves text as it is, and makes none of other nodes. -/
structure LeavesText (change : Node → Node) : Prop where
  isText : ∀ n, (change n).isText = n.isText
  eq_self : ∀ {n}, n.isText = true → change n = n

namespace LeavesText

variable {change : Node → Node} (h : LeavesText change) (ns : List Node)
include h

/-- What is text before the change is text behind it. -/
theorem isText_comp : Node.isText ∘ change = Node.isText := funext h.isText

/-- The text in front of nodes is not changed. -/
theorem map_takeWhile : (ns.takeWhile Node.isText).map change = ns.takeWhile Node.isText := by
  have hsame : ∀ n ∈ ns.takeWhile Node.isText, change n = id n := fun n hn =>
    h.eq_self (List.all_eq_true.mp List.all_takeWhile n hn)
  rw [List.map_congr_left hsame, List.map_id]

/-- So it is the text in front of the changed nodes. -/
theorem takeWhile_map : (ns.map change).takeWhile Node.isText = ns.takeWhile Node.isText := by
  rw [List.takeWhile_map, h.isText_comp, h.map_takeWhile]

/-- The text in front, as one string. -/
theorem leadingText_map : leadingText (ns.map change) = leadingText ns := by
  unfold leadingText
  rw [h.takeWhile_map]

/-- The nodes behind it are changed. -/
theorem withoutLeadingText_map :
    withoutLeadingText (ns.map change) = (withoutLeadingText ns).map change := by
  unfold withoutLeadingText
  rw [List.dropWhile_map, h.isText_comp]

/-- So are the nodes with the text behind them, which is not. -/
theorem withTails_map :
    withTails (ns.map change) = (withTails ns).map fun p => (change p.1, p.2.map change) := by
  induction ns with
  | nil => rfl
  | cons n ns ih =>
    rw [List.map_cons, withTails, withTails, h.isText, ih]
    split
    · rfl
    · rw [List.map_cons, h.takeWhile_map, h.map_takeWhile]

end LeavesText

end AttrTemplates.Xml
