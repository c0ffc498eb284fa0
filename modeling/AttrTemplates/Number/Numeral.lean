import AttrTemplates.Number.Digits
import AttrTemplates.Text.Blank

/-!
# `AttrTemplates.Number.Numeral`: numerals of all scripts

A number may be written with the decimal digits of any script and with white space around it.
`numeral` is the plain spelling of such a numeral; every reader of numbers works on that.
-/

set_option autoImplicit false

namespace AttrTemplates.Number

/-- The characters for zero beyond ASCII. Those for one to nine follow each of them. -/
def zeros : Array Nat := #[
  0x660, 0x6F0, 0x7C0, 0x966, 0x9E6, 0xA66, 0xAE6, 0xB66, 0xBE6, 0xC66, 0xCE6, 0xD66, 0xDE6,
  0xE50, 0xED0, 0xF20, 0x1040, 0x1090, 0x17E0, 0x1810, 0x1946, 0x19D0, 0x1A80, 0x1A90, 0x1B50,
  0x1BB0, 0x1C40, 0x1C50, 0xA620, 0xA8D0, 0xA900, 0xA9D0, 0xA9F0, 0xAA50, 0xABF0, 0xFF10,
  0x104A0, 0x10D30, 0x11066, 0x110F0, 0x11136, 0x111D0, 0x112F0, 0x11450, 0x114D0, 0x11650,
  0x116C0, 0x11730, 0x118E0, 0x11950, 0x11C50, 0x11D50, 0x11DA0, 0x16A60, 0x16AC0, 0x16B50,
  0x1D7CE, 0x1D7D8, 0x1D7E2, 0x1D7EC, 0x1D7F6, 0x1E140, 0x1E2F0, 0x1E950, 0x1FBF0]

/-- The ASCII digit of the same value as a digit of another script. -/
def asciiDigit? (c : Char) : Option Char :=
  (zeros.find? fun z => z ≤ c.toNat && c.toNat < z + 10).map fun z =>
    Char.ofNat ('0'.toNat + (c.toNat - z))

/-- A character of a numeral in plain spelling. -/
def plainCharacter (c : Char) : Char :=
  if c.toNat < 0x80 then c
  else if Text.isBlank c then ' '
  else (asciiDigit? c).getD c

/-- The white space that may stand around a numeral in plain spelling. -/
def isAroundNumeral (c : Char) : Bool := c == ' ' || ('\t' ≤ c && c ≤ '\r')

/-- A numeral in plain spelling: with ASCII digits and nothing around it. -/
def numeral (cs : List Char) : List Char :=
  let cs := (cs.map plainCharacter).dropWhile isAroundNumeral
  (cs.reverse.dropWhile isAroundNumeral).reverse

end AttrTemplates.Number
