import AttrTemplates.Data.Scan
import AttrTemplates.Failure
import AttrTemplates.Number.Numeral

/-!
# `AttrTemplates.Data.Yaml.Numeral`: words that are numbers

A plain word is a number when it looks like one: `isFloat` and `isNatural` say which do. A tag
may claim any word to be a number, so `intValue` and `floatValue` read more than these and have
failures of their own: a base may be named twice (`0x0x1F`), and digits may be of any script.
-/

set_option autoImplicit false

namespace AttrTemplates.Data.Yaml

/-- A digit, or an underscore between digits. -/
def isDigitOrBar (base : Nat) (c : Char) : Bool := Number.isDigitOf base c || c == '_'

/-- A word without a sign in front. -/
def unsigned : List Char → List Char
  | '-' :: cs => cs
  | '+' :: cs => cs
  | cs => cs

/-- A digit of base sixty, of one or two figures. -/
def isSixtieth : List Char → Bool
  | [a] => Number.isDigit a
  | [a, b] => Number.isDigitOf 6 a && Number.isDigit b
  | _ => false

/-- Whether a word is an integer without sign. -/
def isNatural : List Char → Bool
  | '0' :: 'b' :: cs => !cs.isEmpty && cs.all (isDigitOrBar 2)
  | '0' :: 'x' :: cs => !cs.isEmpty && cs.all (isDigitOrBar 16)
  | '0' :: cs => cs.all (isDigitOrBar 8)
  | c :: cs =>
    match Text.splitAt ':' cs with
    | first :: more => Number.isDigit c && first.all (isDigitOrBar 10) && more.all isSixtieth
    | [] => false
  | [] => false

/-- Whether what follows a fraction is nothing or an exponent, whose sign is always written. -/
def isExponentOrNothing : List Char → Bool
  | [] => true
  | e :: s :: d :: cs =>
    (e == 'e' || e == 'E') && (s == '+' || s == '-') && (d :: cs).all Number.isDigit
  | _ => false

/-- Whether a word is a number with a point. -/
def isFraction (cs : List Char) : Bool :=
  let afterPoint (ds : List Char) : Bool := isExponentOrNothing (ds.dropWhile (isDigitOrBar 10))
  match cs with
  | '.' :: d :: ds => Number.isDigit d && afterPoint ds
  | _ =>
    match unsigned cs with
    | d :: ds =>
      Number.isDigit d && match ds.dropWhile (isDigitOrBar 10) with
        | '.' :: rest => afterPoint rest
        | ':' :: rest =>
          match Text.splitAt '.' rest with
          | [sixtieths, fraction] =>
            (Text.splitAt ':' sixtieths).all isSixtieth && fraction.all (isDigitOrBar 10)
          | _ => false
        | _ => false
    | [] => false

/-- Whether a word is a floating-point number. -/
def isFloat (cs : List Char) : Bool :=
  isFraction cs
    || [".inf", ".Inf", ".INF"].contains (String.ofList (unsigned cs))
    || [".nan", ".NaN", ".NAN"].contains (String.ofList cs)

/-- The failure of a look at the first character of an empty word. -/
def noFirst : Fault := .failure (.raised .indexError "string index out of range")

/-- The letter that names a base of digits behind a zero. -/
def baseLetter? : Nat → Option Char
  | 2 => some 'b'
  | 8 => some 'o'
  | 16 => some 'x'
  | _ => none

/-- Digits without the zero and the letter in front of them that name their base. -/
def withoutBase (base : Nat) : List Char → List Char
  | '0' :: c :: cs => if baseLetter? base == some c.toLower then cs else '0' :: c :: cs
  | cs => cs

/-- The integer that digits of a base are, with white space around them and a sign in front. -/
def integerOf (base : Nat) (cs : List Char) : Except Fault Int :=
  let cs := Number.numeral cs
  let ds := withoutBase base (unsigned cs)
  if ds.isEmpty || !ds.all (Number.isDigitOf base) then .error .malformed
  else if base == 10 && ds.length > Number.maxDigits then .error .malformed
  else
    let n : Int := Number.ofDigits base ds
    .ok (if cs.head? == some '-' then -n else n)

/-- The number that digits of base sixty make. -/
def ofSixtieths (parts : List Int) : Int := parts.foldl (fun n d => n * 60 + d) 0

/-- The integer that a word without underscores and sign is: binary, hexadecimal, octal, of base
sixty, or decimal. -/
def naturalValue (cs : List Char) : Except Fault Int :=
  match cs with
  | [] => .error noFirst
  | ['0'] => .ok 0
  | '0' :: 'b' :: ds => integerOf 2 ds
  | '0' :: 'x' :: ds => integerOf 16 ds
  | '0' :: _ => integerOf 8 cs
  | _ =>
    if cs.contains ':' then do
      let parts ← (Text.splitAt ':' cs).mapM (integerOf 10)
      pure (ofSixtieths parts)
    else integerOf 10 cs

/-- A word as an integer. -/
def intValue (word : List Char) : Except Fault Int := do
  let cs := word.filter (· != '_')
  if cs.isEmpty then throw noFirst
  let n ← naturalValue (unsigned cs)
  pure (if cs.head? == some '-' then -n else n)

/-- The float that a word of lower case is, with white space around it and a sign in front. -/
def floatOf (word : List Char) : Except Fault Float :=
  let cs := Number.numeral word
  let negative := cs.head? == some '-'
  let cs := unsigned cs
  if cs == "inf".toList || cs == "infinity".toList then
    .ok (if negative then -1.0 / 0.0 else 1.0 / 0.0)
  else if cs == "nan".toList then .ok (0.0 / 0.0)
  else
    let whole := cs.takeWhile Number.isDigit
    let (places, rest) := match cs.dropWhile Number.isDigit with
      | '.' :: rest => (rest.takeWhile Number.isDigit, rest.dropWhile Number.isDigit)
      | rest => ([], rest)
    let exponent? : Option Int := match rest with
      | [] => some 0
      | 'e' :: rest =>
        let ds := unsigned rest
        if ds.isEmpty || !ds.all Number.isDigit then none
        else
          let n : Int := Number.ofDigits 10 ds
          some (if rest.head? == some '-' then -n else n)
      | _ => none
    match exponent? with
    | some e =>
      if whole.isEmpty && places.isEmpty then .error .malformed
      else .ok (Number.decimal negative (Number.ofDigits 10 (whole ++ places)) (e - places.length))
    | none => .error .malformed

/-- The float that digits of base sixty make, the last first; `base` is what the next one counts.
It has to be a float itself. -/
def sumSixtieths (sum : Float) (base : Nat) : List Float → Except Fault Float
  | [] => .ok sum
  | d :: ds =>
    let b := Number.decimal false base 0
    if b.isInf then
      .error (.failure (.raised .overflowError "int too large to convert to float"))
    else sumSixtieths (sum + d * b) (base * 60) ds

/-- A word as a floating-point number. -/
def floatValue (word : List Char) : Except Fault Float := do
  let cs := (word.filter (· != '_')).map Char.toLower
  if cs.isEmpty then throw noFirst
  let negative := cs.head? == some '-'
  let cs := unsigned cs
  if cs == ".inf".toList then pure (if negative then -1.0 / 0.0 else 1.0 / 0.0)
  else if cs == ".nan".toList then pure (0.0 / 0.0)
  else
    let x ←
      if cs.contains ':' then do
        let parts ← (Text.splitAt ':' cs).mapM floatOf
        sumSixtieths 0 1 parts.reverse
      else floatOf cs
    pure (if negative then -x else x)

end AttrTemplates.Data.Yaml
