import AttrTemplates.Expr.Path
import AttrTemplates.Proofs.Number.Decimal

/-!
# `AttrTemplates.Proofs.Expr.Indices`: atoms that are integers

An atom is an index when it is an integer as it is usually written. There is one such text for every
integer, and none that is taken for two: `isIndex_iff` and `indexValue_toString`.

A sequence is asked for the item at an index, from the start or, if it is negative, from the end.
`itemAt_natCast`, `itemAt_sub_length` and `itemAt_outside` are the three cases, and
`index_addresses_item` puts them behind the text of the integer. Every other atom leads nowhere in a
sequence, `01` and `-0` among them.
-/

set_option autoImplicit false

namespace AttrTemplates.Expr

/-! ### Integers and their texts -/

/-- There is no sign among digits. -/
theorem minus_not_mem_toDigits (m : Nat) : '-' ∉ Nat.toDigits 10 m := by
  intro hmem
  have hdigit := Nat.isDigit_of_mem_toDigits (by decide) (by decide) hmem
  cases hdigit

/-- A natural number is written as its digits. -/
theorem toList_toString_ofNat (m : Nat) : (toString (Int.ofNat m)).toList = Nat.toDigits 10 m :=
  Nat.toList_repr

/-- A negative number is written as a sign and digits. -/
theorem toList_toString_negSucc (m : Nat) :
    (toString (Int.negSucc m)).toList = '-' :: Nat.toDigits 10 (m + 1) := by
  show ("-" ++ (m + 1).repr).toList = _
  simp

/-- The digits of an integer that is written down are those of its absolute value. -/
theorem indexDigits_toString (n : Int) : indexDigits (toString n) = Nat.toDigits 10 n.natAbs := by
  unfold indexDigits
  cases n with
  | ofNat m =>
    rw [toList_toString_ofNat]
    split
    · rename_i heq
      -- No digit is a sign.
      have hminus := minus_not_mem_toDigits m
      simp [heq] at hminus
    · rfl
  | negSucc m =>
    rw [toList_toString_negSucc]
    rfl

/-- An integer is read back from its text. -/
theorem indexValue_toString (n : Int) : indexValue (toString n) = n := by
  have hsign : (toString n).startsWith "-" = true ↔ ['-'] <+: (toString n).toList :=
    String.startsWith_string_iff
  unfold indexValue
  dsimp only
  rw [indexDigits_toString, Number.ofDigits_toDigits]
  -- The sign is looked for at the front, where only a negative number has one.
  cases n with
  | ofNat m =>
    rw [toList_toString_ofNat] at hsign
    rw [if_neg fun hminus => minus_not_mem_toDigits m ((hsign.mp hminus).subset List.mem_cons_self)]
    rfl
  | negSucc m =>
    rw [toList_toString_negSucc] at hsign
    rw [if_pos (hsign.mpr ⟨_, rfl⟩)]
    rfl

/-- An index is zero, or a numeral that may have a sign. -/
theorem isIndex_iff_isNumeral (atom : String) : isIndex atom = true ↔
    atom.toList = ['0'] ∨ Number.isNumeral atom.toList = true ∨
      ∃ ds, atom.toList = '-' :: ds ∧ Number.isNumeral ds = true := by
  unfold isIndex
  split
  · rename_i heq
    simp [heq]
  · rename_i c cs heq
    simp [heq, Number.isNumeral]
  · rename_i c cs hzero hminus heq
    have hone : c :: cs ≠ ['0'] := by simpa using hzero
    -- The cases in front of this one leave no sign with characters behind it.
    have hunsigned : ¬ ∃ ds, c :: cs = '-' :: ds ∧ Number.isNumeral ds = true := by
      rintro ⟨ds, hds, hnumeral⟩
      obtain ⟨rfl, rfl⟩ := List.cons.inj hds
      cases cs with
      | nil => cases hnumeral
      | cons d ds => exact hminus d ds rfl rfl
    rw [heq, or_iff_right hone, or_iff_left hunsigned]
    rfl
  · rename_i heq
    simp [heq, Number.isNumeral]

/-- The indices are the texts of the integers. -/
theorem isIndex_iff (atom : String) : isIndex atom = true ↔ ∃ n : Int, atom = toString n := by
  have htext : ∀ n : Int, atom = toString n ↔ atom.toList = (toString n).toList :=
    fun n => String.toList_inj.symm
  simp only [isIndex_iff_isNumeral, Number.isNumeral_iff, htext]
  constructor
  · -- A numeral is zero, a natural number without zeros in front, or such a number behind a sign.
    rintro (h | ⟨m, hm, h⟩ | ⟨_, h, m, hm, rfl⟩)
    · exact ⟨0, h⟩
    · exact ⟨.ofNat m, by rw [h, toList_toString_ofNat]⟩
    · obtain ⟨k, rfl⟩ := Nat.exists_eq_add_one.mpr hm
      exact ⟨.negSucc k, by rw [h, toList_toString_negSucc]⟩
  · rintro ⟨n, h⟩
    cases n with
    | ofNat m =>
      rw [toList_toString_ofNat] at h
      cases m with
      | zero => exact .inl h
      | succ m => exact .inr (.inl ⟨_, Nat.succ_pos m, h⟩)
    | negSucc m =>
      rw [toList_toString_negSucc] at h
      exact .inr (.inr ⟨_, h, _, Nat.succ_pos m, rfl⟩)

/-- The digits of an index are digits. -/
theorem all_isDigit_indexDigits {atom : String} (h : isIndex atom = true) :
    (indexDigits atom).all Number.isDigit = true := by
  obtain ⟨n, rfl⟩ := (isIndex_iff atom).mp h
  rw [indexDigits_toString, List.all_eq_true]
  intro c hc
  exact Nat.isDigit_of_mem_toDigits (by decide) (by decide) hc

/-! ### Items of sequences -/

section

variable {items : List Value}

/-- A natural index in range is the place of an item. -/
theorem itemAt_natCast {i : Nat} (hi : i < items.length) : itemAt items i = items[i] := by
  have hnonneg : ¬ (i : Int) < 0 := by omega
  simp [itemAt, hnonneg, hi]

/-- Below zero items are counted from the end. -/
theorem itemAt_sub_length {i : Nat} (hi : i < items.length) :
    itemAt items ((i : Int) - items.length) = items[i] := by
  have hbelow : (i : Int) - items.length < 0 := by omega
  have hnonneg : ¬ (i : Int) < 0 := by omega
  simp [itemAt, hbelow, hnonneg, hi]

/-- Outside of the range there is no item. -/
theorem itemAt_outside {n : Int} (hn : n < -items.length ∨ items.length ≤ n) :
    itemAt items n = .undefined := by
  unfold itemAt
  dsimp only
  by_cases hbelow : n < 0
  · rw [if_pos hbelow, if_pos (by omega)]
  · have hnone : items[n.toNat]? = none := List.getElem?_eq_none (by omega)
    rw [if_neg hbelow, if_neg hbelow, hnone]
    rfl

/-- A sequence is asked for the item at an integer by the text of it. -/
theorem sequenceStep_toString {n : Int}
    (hn : (Nat.toDigits 10 n.natAbs).length ≤ Number.maxDigits) :
    sequenceStep items (toString n) = .ok (itemAt items n) := by
  have hindex : isIndex (toString n) = true := (isIndex_iff _).mpr ⟨n, rfl⟩
  unfold sequenceStep
  rw [hindex, indexDigits_toString, indexValue_toString]
  simp [Nat.not_lt.mpr hn]

/-- What is no index leads to nothing in a sequence. -/
theorem sequenceStep_of_not_isIndex {atom : String} (h : isIndex atom = false) :
    sequenceStep items atom = .ok .undefined := by
  simp [sequenceStep, h]

end

/-- The items of a list or of a tuple, which may have names for its places. -/
def itemsOf? : Value → Option (List Value)
  | .list items | .tuple items => some items
  | .parts _ items => some (items.map (·.2))
  | _ => none

/-- Lists and tuples have no members, so every atom is taken for an index. -/
theorem step_of_itemsOf? {v : Value} {items : List Value} (h : itemsOf? v = some items)
    (atom : String) (call : Bool) : step v atom call = sequenceStep items atom := by
  have hmember : v.member? atom = none := by
    unfold Value.member?
    cases v <;> cases atom.startsWith "_" <;> first | rfl | cases h
  unfold step
  rw [hmember]
  cases v <;> cases h <;> rfl

/-- An atom is an index just when it is the decimal text of an integer. On a list or a tuple the
text of an integer leads to the item at it, counted from the start or, below zero, from the end,
and to nothing if there is no such item; every atom that is no index leads to nothing. The integer
may be far too large for a place in memory, as long as its digits are not too many to be read. -/
theorem index_addresses_item {v : Value} {items : List Value} (hitems : itemsOf? v = some items)
    (call : Bool) :
    (∀ atom, isIndex atom = true ↔ ∃ n : Int, atom = toString n) ∧
    (∀ n : Int, (Nat.toDigits 10 n.natAbs).length ≤ Number.maxDigits →
      (∀ i (hi : i < items.length), n = i → step v (toString n) call = .ok items[i]) ∧
      (∀ i (hi : i < items.length), items.length + n = i →
        step v (toString n) call = .ok items[i]) ∧
      (n < -items.length ∨ items.length ≤ n → step v (toString n) call = .ok .undefined)) ∧
    ∀ atom, isIndex atom = false → step v atom call = .ok .undefined := by
  refine ⟨isIndex_iff, fun n hn => ?_, fun atom hatom => ?_⟩
  · rw [step_of_itemsOf? hitems, sequenceStep_toString hn]
    refine ⟨?_, ?_, ?_⟩
    · rintro i hi rfl
      rw [itemAt_natCast hi]
    · intro i hi hsum
      obtain rfl : n = (i : Int) - items.length := by omega
      rw [itemAt_sub_length hi]
    · intro houtside
      rw [itemAt_outside houtside]
  · rw [step_of_itemsOf? hitems, sequenceStep_of_not_isIndex hatom]

/-- A tuple of three items, asked for the one at its start by a negative index, for one far past its
end, and by a zero with a sign. -/
theorem index_addresses_item_of_three :
    let v : Value := .tuple [.int 10, .int 20, .int 30]
    itemsOf? v = some [.int 10, .int 20, .int 30]
      ∧ (Nat.toDigits 10 (18446744073709551616 : Int).natAbs).length ≤ Number.maxDigits
      ∧ step v "-3" = .ok (.int 10)
      ∧ step v "18446744073709551616" = .ok .undefined
      ∧ step v "-0" = .ok .undefined := by
  intro v
  have hitems : itemsOf? v = some [.int 10, .int 20, .int 30] := rfl
  obtain ⟨-, hindex, hother⟩ := index_addresses_item hitems true
  have hdigits :
      (Nat.toDigits 10 (18446744073709551616 : Int).natAbs).length ≤ Number.maxDigits := by decide
  have hfirst := (hindex (-3) (by decide)).2.1 0 (by decide) rfl
  have hpast := (hindex 18446744073709551616 hdigits).2.2 (.inr (by decide))
  exact ⟨hitems, hdigits, hfirst, hpast, hother "-0" (by decide)⟩

end AttrTemplates.Expr
