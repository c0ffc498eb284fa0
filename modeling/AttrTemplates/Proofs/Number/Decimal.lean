import AttrTemplates.Number.Digits

/-!
# `AttrTemplates.Proofs.Number.Decimal`: the digits of a number

The decimal text of a number other than zero begins with a digit from one to nine, and every text of
digits that begins so is the text of one number. `isNumeral_iff` says this: there is one way to
write a number and one way to read it.

* `isNumeral_toDigits` goes from the number to its text, digit by digit from the last one;
* `toDigits_ofDigits` goes from the text to the number and back, by `toDigits_foldl`: whatever has
  been read so far, one more digit of the text is one more digit of the number.
-/

set_option autoImplicit false

namespace AttrTemplates.Number

/-- Whether characters are digits that begin with none of value zero. -/
def isNumeral : List Char → Bool
  | [] => false
  | c :: cs => '1' ≤ c && c ≤ '9' && cs.all isDigit

/-! ### Single digits -/

/-- The digits are the ten of ASCII. -/
theorem isDigit_iff {c : Char} : isDigit c = true ↔ 48 ≤ c.toNat ∧ c.toNat ≤ 57 := by
  simp only [isDigit, Bool.and_eq_true, decide_eq_true_eq]
  rfl

/-- The digits are those of the library. -/
theorem isDigit_eq (c : Char) : isDigit c = c.isDigit := rfl

/-- The value of a digit is its distance from zero. -/
theorem digitValue_of_isDigit {c : Char} (h : isDigit c = true) :
    digitValue c = c.toNat - 48 := by
  simp [digitValue, h]

/-- A digit has one value, and a value below ten one digit. -/
theorem toDigits_digitValue {c : Char} (h : isDigit c = true) :
    Nat.toDigits 10 (digitValue c) = [c] := by
  obtain ⟨hlow, hhigh⟩ := isDigit_iff.mp h
  have hten : c.toNat - 48 < 10 := by omega
  rw [digitValue_of_isDigit h, Nat.toDigits_of_lt_base hten, List.singleton_inj]
  apply Char.toNat_inj.mp
  rw [Nat.toNat_digitChar_of_lt_ten hten]
  omega

/-! ### Reading -/

/-- Digits that are read behind a number are the digits behind its own. The number may not be zero,
since a zero in front would be lost. -/
theorem toDigits_foldl {n : Nat} (hn : 0 < n) {cs : List Char} (h : cs.all isDigit = true) :
    Nat.toDigits 10 (cs.foldl (fun n c => n * 10 + digitValue c) n) = Nat.toDigits 10 n ++ cs := by
  induction cs generalizing n with
  | nil => simp
  | cons c cs ih =>
    obtain ⟨hc, hcs⟩ := Bool.and_eq_true_iff.mp h
    have hten : digitValue c < 10 := by
      have hdigit := isDigit_iff.mp hc
      rw [digitValue_of_isDigit hc]
      omega
    -- One more digit behind a number that is not zero is one more digit of the text.
    have hstep := Nat.toDigits_append_toDigits (by decide) hn hten
    calc Nat.toDigits 10 ((c :: cs).foldl (fun n c => n * 10 + digitValue c) n)
        = Nat.toDigits 10 (10 * n + digitValue c) ++ cs := by
          rw [List.foldl_cons, ih (by omega) hcs, Nat.mul_comm]
      _ = Nat.toDigits 10 n ++ [c] ++ cs := by rw [← hstep, toDigits_digitValue hc]
      _ = Nat.toDigits 10 n ++ c :: cs := by simp

/-- A numeral is the text of the number that it is read as. -/
theorem toDigits_ofDigits {cs : List Char} (h : isNumeral cs = true) :
    Nat.toDigits 10 (ofDigits 10 cs) = cs := by
  cases cs with
  | nil => cases h
  | cons c cs =>
    obtain ⟨hc, hcs⟩ := Bool.and_eq_true_iff.mp h
    obtain ⟨hlow, hhigh⟩ := Bool.and_eq_true_iff.mp hc
    have hone : 49 ≤ c.toNat := of_decide_eq_true hlow
    have hnine : c.toNat ≤ 57 := of_decide_eq_true hhigh
    have hdigit : isDigit c = true := isDigit_iff.mpr ⟨by omega, hnine⟩
    -- A numeral of several digits does not begin with a zero, so its value is not zero from there
    -- on.
    have hpos : 0 < digitValue c := by
      rw [digitValue_of_isDigit hdigit]
      omega
    show Nat.toDigits 10 (cs.foldl (fun n c => n * 10 + digitValue c) (0 * 10 + digitValue c)) = _
    rw [Nat.zero_mul, Nat.zero_add, toDigits_foldl hpos hcs, toDigits_digitValue hdigit]
    rfl

/-! ### Writing -/

/-- Digits behind a numeral make a longer one. -/
theorem isNumeral_append {cs ds : List Char} (hcs : isNumeral cs = true)
    (hds : ds.all isDigit = true) : isNumeral (cs ++ ds) = true := by
  cases cs with
  | nil => cases hcs
  | cons c cs =>
    obtain ⟨hc, hcs⟩ := Bool.and_eq_true_iff.mp hcs
    show ('1' ≤ c && c ≤ '9' && (cs ++ ds).all isDigit) = true
    rw [List.all_append, hc, hcs, hds]
    rfl

/-- The text of a number other than zero is a numeral. -/
theorem isNumeral_toDigits {n : Nat} (hn : 0 < n) : isNumeral (Nat.toDigits 10 n) = true := by
  induction n using Nat.strongRecOn with
  | ind n ih =>
    by_cases hten : n < 10
    · rw [Nat.toDigits_of_lt_base hten]
      have hsingle : ∀ n < 10, 0 < n → isNumeral [n.digitChar] = true := by decide
      exact hsingle n hten hn
    · -- The last digit may be any, so the first one is found in front of it.
      have hfront := ih (n / 10) (by omega) (by omega)
      have hlast : isDigit (n % 10).digitChar = true := by
        rw [isDigit_eq, Nat.isDigit_digitChar]
        exact decide_eq_true (Nat.mod_lt n (by decide))
      rw [Nat.toDigits_of_base_le (by decide) (by omega)]
      exact isNumeral_append hfront (by simp [hlast])

/-- Numerals are the texts of the numbers other than zero. -/
theorem isNumeral_iff {cs : List Char} :
    isNumeral cs = true ↔ ∃ n, 0 < n ∧ cs = Nat.toDigits 10 n := by
  constructor
  · intro h
    refine ⟨ofDigits 10 cs, Nat.pos_of_ne_zero fun hzero => ?_, (toDigits_ofDigits h).symm⟩
    have hcs := toDigits_ofDigits h
    rw [hzero] at hcs
    rw [← hcs] at h
    cases h
  · rintro ⟨n, hn, rfl⟩
    exact isNumeral_toDigits hn

/-- A number is read back from its text. -/
theorem ofDigits_toDigits (n : Nat) : ofDigits 10 (Nat.toDigits 10 n) = n := by
  cases n with
  | zero => rfl
  | succ n =>
    have hback := toDigits_ofDigits (isNumeral_toDigits (Nat.succ_pos n))
    rw [← Nat.ofDigitChars_ten_toDigits (n := ofDigits 10 _), hback, Nat.ofDigitChars_ten_toDigits]

/-- A number has no fewer digits than a smaller one. -/
theorem length_toDigits_mono {m n : Nat} (h : m ≤ n) :
    (Nat.toDigits 10 m).length ≤ (Nat.toDigits 10 n).length := by
  have hbound := (Nat.length_toDigits_le_iff (by decide) Nat.length_toDigits_pos).mp
    (Nat.le_refl (Nat.toDigits 10 n).length)
  exact (Nat.length_toDigits_le_iff (by decide) Nat.length_toDigits_pos).mpr
    (Nat.lt_of_le_of_lt h hbound)

end AttrTemplates.Number
