import AttrTemplates.Data.Yaml.Numeral
import AttrTemplates.Data.Yaml.Timestamp
import AttrTemplates.Text.Lower
import AttrTemplates.Value.Basic

/-!
# `AttrTemplates.Data.Yaml.Kind`: what a word stands for

Every node of a text has a `Kind`, given by its tag. A plain word without tag has the kind that
its look suggests: `yes` is a truth value, `010` an octal number, `12:30` a number of base
sixty, `2024-01-31` a date. `Kind.ofPlain` looks, and `Kind.scalarValue` reads a word of a kind.
Since a tag may claim any kind for any word, the second has failures of its own.
-/

set_option autoImplicit false

namespace AttrTemplates.Data.Yaml

/-- The kinds of nodes. -/
inductive Kind where
  | null
  | bool
  | int
  | float
  | binary
  | timestamp
  | orderedMap
  | pairs
  | set
  | str
  | seq
  | map
  /-- The key of mappings to be merged. -/
  | merge
  /-- The key of a value that may stand for the whole mapping. -/
  | standIn
  | unknown
  deriving DecidableEq, Repr, Inhabited

/-- The beginning of the tags that have a meaning. -/
def tagStart : String := "tag:yaml.org,2002:"

/-- The kind of a tag. -/
def Kind.ofTag (tag : String) : Kind :=
  if tag.startsWith tagStart then
    match String.ofList (tag.toList.drop tagStart.length) with
    | "null" => .null
    | "bool" => .bool
    | "int" => .int
    | "float" => .float
    | "binary" => .binary
    | "timestamp" => .timestamp
    | "omap" => .orderedMap
    | "pairs" => .pairs
    | "set" => .set
    | "str" => .str
    | "seq" => .seq
    | "map" => .map
    | "merge" => .merge
    | "value" => .standIn
    | _ => .unknown
  else .unknown

/-! ### Bytes -/

/-- The six bits that a character stands for in base 64. -/
def sixBits? (c : Char) : Option Nat :=
  if c.isUpper then some (c.toNat - 'A'.toNat)
  else if c.isLower then some (c.toNat - 'a'.toNat + 26)
  else if Number.isDigit c then some (Number.digitValue c + 52)
  else if c == '+' then some 62
  else if c == '/' then some 63
  else none

/-- The bytes of a text in base 64. `held` are the characters of a group of four so far, `left`
the bits that have not become a byte, `pads` the padding seen last. Other characters do not
count, and enough padding ends the text. -/
def bytesOf (held left pads : Nat) (read : List UInt8) : List Char → Option (List UInt8)
  | [] => if held = 0 then some read else none
  | c :: cs =>
    if c == '=' then
      if held ≥ 2 then
        if held + pads + 1 ≥ 4 then some read else bytesOf held left (pads + 1) read cs
      else bytesOf held left pads read cs
    else match sixBits? c with
      | none => bytesOf held left pads read cs
      | some b =>
        match held with
        | 0 => bytesOf 1 b 0 read cs
        | 1 => bytesOf 2 (b % 16) 0 (read ++ [UInt8.ofNat (left * 4 + b / 16)]) cs
        | 2 => bytesOf 3 (b % 4) 0 (read ++ [UInt8.ofNat (left * 16 + b / 4)]) cs
        | _ => bytesOf 0 0 0 (read ++ [UInt8.ofNat (left * 64 + b)]) cs

/-! ### Words -/

/-- The truth value that a word is. -/
def truthOf? (word : String) : Option Bool :=
  match word with
  | "yes" | "true" | "on" => some true
  | "no" | "false" | "off" => some false
  | _ => none

/-- Whether a word is in lower case, in upper case, or has only its first letter in upper
case. -/
def isUsualCase (cs : List Char) : Bool :=
  cs.all Char.isLower || cs.all Char.isUpper
    || (cs.head?.any Char.isUpper && cs.tail.all Char.isLower)

/-- A word as its look is judged: one line end behind it does not count. -/
def lookOf (word : String) : List Char :=
  match word.toList.reverse with
  | '\n' :: c :: cs => (c :: cs).reverse
  | cs => cs.reverse

/-- The kind of a plain word without tag. -/
def Kind.ofPlain (word : String) : Kind :=
  let cs := lookOf word
  let look := String.ofList cs
  if isUsualCase cs && (truthOf? (Text.lower look)).isSome then .bool
  else if isFloat cs then .float
  else if isNatural (unsigned cs) then .int
  else if look == "<<" then .merge
  else if ["~", "null", "Null", "NULL", ""].contains look then .null
  else if (timestamp? cs).any fun t => t.time.isSome || t.isPadded then .timestamp
  else if look == "=" then .standIn
  else if ["!", "&", "*"].contains look then .unknown
  else .str

/-- The value of a word of a kind; `none` when no word is of that kind. -/
def Kind.scalarValue (kind : Kind) (word : String) : Except Fault Value :=
  let cs := word.toList
  match kind with
  | .null => .ok .undefined
  | .bool =>
    match truthOf? (Text.lower word) with
    | some b => .ok (.bool b)
    | none => .error (.failure (.missingKey (Text.lower word)))
  | .int => (intValue cs).map .int
  | .float => (floatValue cs).map .float
  | .binary =>
    if cs.any fun c => c.toNat ≥ 0x80 then .error .malformed
    else match bytesOf 0 0 0 [] cs with
      | some bytes => .ok (.bytes bytes)
      | none => .error .malformed
  | .timestamp =>
    match timestamp? (lookOf word) with
    | some t => t.moment.map .moment
    | none => .error (.failure
        (.raised .attributeError "'NoneType' object has no attribute 'groupdict'"))
  | .str => .ok (.str word)
  | _ => .error .malformed

end AttrTemplates.Data.Yaml
