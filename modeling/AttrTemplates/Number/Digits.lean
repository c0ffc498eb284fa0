/-!
# `AttrTemplates.Number.Digits`: numerals

Reading runs of digits in a base, and decimal fractions. A numeral may have any length; the
limit on the length of integers is the caller's.
-/

set_option autoImplicit false

namespace AttrTemplates.Number

/-- An ASCII decimal digit. -/
def isDigit (c : Char) : Bool := '0' ≤ c && c ≤ '9'

/-- The value of a digit, letters of either case counting from ten. -/
def digitValue (c : Char) : Nat :=
  if isDigit c then c.toNat - '0'.toNat
  else if 'a' ≤ c && c ≤ 'z' then c.toNat - 'a'.toNat + 10
  else if 'A' ≤ c && c ≤ 'Z' then c.toNat - 'A'.toNat + 10
  else 36

/-- Whether a character is a digit of the base. -/
def isDigitOf (base : Nat) (c : Char) : Bool := digitValue c < base

/-- The number written by digits of a base, most significant first. -/
def ofDigits (base : Nat) (cs : List Char) : Nat :=
  cs.foldl (fun n c => n * base + digitValue c) 0

/-- The longest integer text, in digits, that is read as a number, and that is written. -/
def maxDigits : Nat := 4300

/-- The number `digits · 10 ^ exponent`, rounded to the nearest float. Exponents too large or
too small to matter are decided without computing the power. -/
def decimal (negative : Bool) (digits : Nat) (exponent : Int) : Float :=
  let magnitude : Float :=
    if digits = 0 then 0.0
    else
      let places : Int := (Nat.toDigits 10 digits).length
      if places + exponent > 320 then 1.0 / 0.0
      else if places + exponent < -330 then 0.0
      else if exponent < 0 then Float.ofScientific digits true exponent.natAbs
      else Float.ofScientific digits false exponent.natAbs
  if negative then -magnitude else magnitude

end AttrTemplates.Number
