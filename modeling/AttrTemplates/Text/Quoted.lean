import AttrTemplates.Text.Half
import AttrTemplates.Text.Printable

/-!
# `AttrTemplates.Text.Quoted`: texts and bytes between quotes

A quoted text stands in single quotes, or in double quotes when it holds a single quote and
no double one. The backslash, the quote in use and the three usual controls have short
escapes, any other character that is not printable is written as its code in hexadecimal,
with two, four or eight digits. Quoted bytes follow the same rule after a `b`, with every
byte outside printable ASCII in hexadecimal.
-/

set_option autoImplicit false

namespace AttrTemplates.Text

/-- The last `width` hexadecimal digits of a number, lower case, most significant first. -/
def hexDigits : (width n : Nat) → List Char
  | 0, _ => []
  | width + 1, n => hexDigits width (n / 16) ++ [Nat.digitChar (n % 16)]

/-- The quote that a text is written in. -/
def quoteFor (cs : List Char) : Char :=
  if cs.contains '\'' && !cs.contains '"' then '"' else '\''

/-- A character inside a text quoted by `quote`. -/
def quotedChar (quote c : Char) : List Char :=
  if c = quote then ['\\', c]
  else match c with
    | '\\' => ['\\', '\\']
    | '\n' => ['\\', 'n']
    | '\r' => ['\\', 'r']
    | '\t' => ['\\', 't']
    | _ =>
      let code := (half? c).getD c.toNat
      if isPrintable c then [c]
      else if code < 0x100 then '\\' :: 'x' :: hexDigits 2 code
      else if code < 0x10000 then '\\' :: 'u' :: hexDigits 4 code
      else '\\' :: 'U' :: hexDigits 8 code

/-- A text in quotes. -/
def quoted (s : String) : String :=
  let cs := s.toList
  let quote := quoteFor cs
  String.ofList (quote :: cs.flatMap (quotedChar quote) ++ [quote])

/-- A byte inside bytes quoted by `quote`. -/
def quotedByte (quote : Char) (b : UInt8) : List Char :=
  if b.toNat < 0x7F then quotedChar quote (Char.ofNat b.toNat)
  else '\\' :: 'x' :: hexDigits 2 b.toNat

/-- Bytes in quotes, after a `b`. -/
def quotedBytes (bs : List UInt8) : String :=
  let quote := quoteFor (bs.map fun b => Char.ofNat b.toNat)
  String.ofList ('b' :: quote :: bs.flatMap (quotedByte quote) ++ [quote])

end AttrTemplates.Text
