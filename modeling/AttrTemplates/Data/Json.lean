import AttrTemplates.Data.Scan
import AttrTemplates.Number.Digits
import AttrTemplates.Text.Half
import AttrTemplates.Value.Basic

/-!
# `AttrTemplates.Data.Json`: JSON data

JSON as data exchange has it, and besides `NaN`, `Infinity` and `-Infinity` as numbers. A number
with neither fraction nor exponent is an integer. Of a repeated key the last value counts, at
the place of the first.
-/

set_option autoImplicit false

namespace AttrTemplates.Data.Json

open Scan

/-- The white space between tokens. -/
def isSpace (c : Char) : Bool := c == ' ' || c == '\t' || c == '\n' || c == '\r'

/-- Passes over white space. -/
def spaces : Scan Unit := skipWhile isSpace

/-- The character that an escape of one letter stands for. -/
def escaped? : Char → Option Char
  | '"' => some '"'
  | '\\' => some '\\'
  | '/' => some '/'
  | 'b' => some '\x08'
  | 'f' => some '\x0c'
  | 'n' => some '\n'
  | 'r' => some '\r'
  | 't' => some '\t'
  | _ => none

/-- A digit of base sixteen. -/
def isHex (c : Char) : Bool := Number.isDigitOf 16 c

/-- The units of a string, from behind its opening quote, and what follows the closing one. An
escape may stand for half of a character, so a unit need not be one. -/
def units : List Char → Option (List Nat × List Char)
  | [] => none
  | '"' :: cs => some ([], cs)
  | '\\' :: 'u' :: a :: b :: c :: d :: cs =>
    if [a, b, c, d].all isHex then
      (units cs).map fun (us, rest) => (Number.ofDigits 16 [a, b, c, d] :: us, rest)
    else none
  | '\\' :: c :: cs =>
    match escaped? c with
    | some e => (units cs).map fun (us, rest) => (e.toNat :: us, rest)
    | none => none
  | c :: cs =>
    if c.toNat < 0x20 || c == '\\' then none
    else (units cs).map fun (us, rest) => (c.toNat :: us, rest)

/-- The text that units stand for. -/
def textOfUnits (us : List Nat) : String := String.ofList (Text.ofCodes us)

/-- Reads a string, from its opening quote. -/
def string : Scan String := do
  expect "\""
  let us ← ofOption units
  pure (textOfUnits us)

/-- The digits of a number before point and exponent: a single zero, or no zero in front. -/
def wholeDigits : Scan (List Char) := do
  if ← accept "0" then pure ['0']
  else
    let ds ← takeWhile Number.isDigit
    if ds.isEmpty then throw .malformed
    pure ds

/-- Reads a fraction, if one comes next. -/
def fraction : Scan (Option (List Char)) := do
  match ← rest with
  | '.' :: c :: _ =>
    if Number.isDigit c then
      skip 1
      pure (some (← takeWhile Number.isDigit))
    else pure none
  | _ => pure none

/-- Reads an exponent, if one comes next. -/
def exponent : Scan (Option Int) := do
  let cs ← rest
  match cs with
  | e :: behind =>
    let negative := behind.head? == some '-'
    let digits := if negative || behind.head? == some '+' then behind.drop 1 else behind
    if (e == 'e' || e == 'E') && digits.head?.any Number.isDigit then
      set (digits.dropWhile Number.isDigit)
      let n : Int := Number.ofDigits 10 (digits.takeWhile Number.isDigit)
      pure (some (if negative then -n else n))
    else pure none
  | [] => pure none

/-- Reads a number. An integer of too many digits cannot be read. -/
def number : Scan Value := do
  let negative ← accept "-"
  if negative && (← accept "Infinity") then return .float (-1.0 / 0.0)
  let whole ← wholeDigits
  let fraction? ← fraction
  let exponent? ← exponent
  match fraction?, exponent? with
  | none, none =>
    if whole.length > Number.maxDigits then throw .malformed
    let n : Int := Number.ofDigits 10 whole
    pure (.int (if negative then -n else n))
  | _, _ =>
    let places := fraction?.getD []
    pure (.float (Number.decimal negative (Number.ofDigits 10 (whole ++ places))
      (exponent?.getD 0 - places.length)))

/-- The deepest nesting that is read. -/
def maxDepth : Nat := 990

/-- The failure of data that nest too deeply. -/
def tooDeep (what : String) : Fault :=
  .failure (.raised .recursionError
    ("maximum recursion depth exceeded while decoding a JSON " ++ what
      ++ " from a unicode string"))

mutual

/-- Reads a value that lies in `depth` others. -/
def value (depth : Nat) : (fuel : Nat) → Scan Value
  | 0 => throw .malformed
  | fuel + 1 => do
    match ← peek with
    | some '"' => pure (.str (← string))
    | some '{' =>
      if depth ≥ maxDepth then throw (tooDeep "object")
      skip 1
      spaces
      if ← accept "\x7d" then pure (.map [])
      else pure (.map (← members (depth + 1) [] fuel))
    | some '[' =>
      if depth ≥ maxDepth then throw (tooDeep "array")
      skip 1
      spaces
      if ← accept "]" then pure (.list [])
      else pure (.list (← items (depth + 1) [] fuel))
    | _ =>
      if ← accept "null" then pure .undefined
      else if ← accept "true" then pure (.bool true)
      else if ← accept "false" then pure (.bool false)
      else if ← accept "NaN" then pure (.float (0.0 / 0.0))
      else if ← accept "Infinity" then pure (.float (1.0 / 0.0))
      else number

/-- Reads the items of an array, from the first one on; `read` are those before, in reverse. -/
def items (depth : Nat) (read : List Value) : (fuel : Nat) → Scan (List Value)
  | 0 => throw .malformed
  | fuel + 1 => do
    let v ← value depth fuel
    spaces
    if ← accept "]" then pure (v :: read).reverse
    else
      expect ","
      spaces
      items depth (v :: read) fuel

/-- Reads the members of an object, from the first key on. -/
def members (depth : Nat) (read : Entries) : (fuel : Nat) → Scan Entries
  | 0 => throw .malformed
  | fuel + 1 => do
    let k ← string
    spaces
    expect ":"
    spaces
    let v ← value depth fuel
    let read := read.bind k v
    spaces
    if ← accept "\x7d" then pure read
    else
      expect ","
      spaces
      members depth read fuel

end

/-- Reads a text of JSON. -/
def read (s : String) : Except Fault Value :=
  let cs := s.toList
  Scan.all (do
    spaces
    let v ← value 0 (cs.length + 1)
    spaces
    pure v) cs

end AttrTemplates.Data.Json
