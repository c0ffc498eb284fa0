import AttrTemplates.Text.Half

/-!
# `AttrTemplates.Text.Punycode`: characters listed behind a text

Punycode writes the characters of ASCII as they are, and behind the last hyphen digits for all the
others: each number tells how far to walk, through the places of the text and the characters in
turn, to the next insertion. A number ends with a digit that is small enough; how small it has
to be is adapted to the numbers so far.
-/

set_option autoImplicit false

namespace AttrTemplates.Text.Punycode

/-- The number of digits. -/
def base : Nat := 36

/-- The value of a digit. -/
def digit? (b : Nat) : Option Nat :=
  if 0x61 ≤ b && b ≤ 0x7A then some (b - 0x61)
  else if 0x41 ≤ b && b ≤ 0x5A then some (b - 0x41)
  else if 0x30 ≤ b && b ≤ 0x39 then some (b - 0x30 + 26)
  else none

/-- The digits from this one on go on with the number, at the `index`-th place. -/
def threshold (index bias : Nat) : Nat := max 1 (min 26 (base * (index + 1) - bias))

/-- Reads a number: its value and what is behind it, nothing if it breaks off or is none. -/
def number? (bias : Nat) (value weight index : Nat) : List UInt8 → Option (Nat × List UInt8)
  | [] => none
  | b :: bytes =>
    match digit? b.toNat with
    | none => none
    | some d =>
      let limit := threshold index bias
      if d < limit then some (value + d * weight, bytes)
      else number? bias (value + d * weight) (weight * (base - limit)) (index + 1) bytes

/-- A number has at least one digit. -/
theorem number?_shorter {bias value weight index n : Nat} {bytes rest : List UInt8}
    (h : number? bias value weight index bytes = some (n, rest)) : rest.length < bytes.length := by
  fun_induction number? bias value weight index bytes with
  | case1 => simp at h
  | case2 => simp at h
  | case3 => simp_all
  | case4 _ _ _ _ _ _ _ _ _ ih =>
    have := ih h
    simp only [List.length_cons]
    omega

/-- Divides a number until it is small, counting the bias. -/
def settle (bias delta : Nat) : Nat :=
  if 455 < delta then settle (bias + base) (delta / 35)
  else bias + base * delta / (delta + 38)
termination_by delta

/-- The bias after a number, when the text has `length` characters. -/
def adapted (delta : Nat) (first : Bool) (length : Nat) : Nat :=
  let delta := delta / (if first then 700 else 2)
  settle 0 (delta + delta / length)

/-- Inserts what numbers tell into a text. The walk stands behind character `code` at the place
`next`. What cannot be read ends it. -/
def inserted (first : Bool) (bias code next : Nat) (text : List Char) (bytes : List UInt8) :
    List Char :=
  match h : number? bias 0 1 0 bytes with
  | none => text
  | some (delta, rest) =>
    let places := text.length + 1
    let walked := code + (next + delta) / places
    let code := if walked > 0x10FFFF then '?'.toNat else walked
    let place := (next + delta) % places
    let text := text.take place ++ charOfCode code :: text.drop place
    inserted false (adapted delta first text.length) code (place + 1) text rest
termination_by bytes.length
decreasing_by exact number?_shorter h

/-- A byte as a character of ASCII. -/
def plain (b : UInt8) : Char := if b.toNat < 0x80 then Char.ofNat b.toNat else '\uFFFD'

/-- The text of bytes, or the place of a byte that is no digit of any kind, behind the last
hyphen. -/
def decode (bytes : List UInt8) : Except (UInt8 × Nat) String :=
  let digits := (bytes.reverse.takeWhile (· != 0x2D)).reverse
  let before := bytes.take (bytes.length - digits.length - 1)
  match digits.zipIdx.find? fun (b, _) => b.toNat ≥ 0x80 with
  | some wrong => .error wrong
  | none => .ok (String.ofList (inserted true 72 0x80 0 (before.map plain) digits))

example : (decode "maana-pta".toUTF8.toList).toOption = some "mañana" := by decide +kernel

end AttrTemplates.Text.Punycode
