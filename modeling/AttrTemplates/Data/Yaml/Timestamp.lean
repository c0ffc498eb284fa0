import AttrTemplates.Data.Scan
import AttrTemplates.Number.Digits
import AttrTemplates.Value.Moment

/-!
# `AttrTemplates.Data.Yaml.Timestamp`: words that are dates

A date stands alone or before a time of day, which may have a fraction and an offset from
universal time. `timestamp?` takes a word apart, and `Timestamp.moment` looks its numbers up in
the calendar.
-/

set_option autoImplicit false

namespace AttrTemplates.Data.Yaml

/-- A word as a date: its numbers before they are looked up in a calendar. -/
structure Timestamp where
  year : Nat
  month : Nat
  day : Nat
  /-- Hour, minute, second, digits of the fraction, and the offset in seconds. -/
  time : Option (Nat × Nat × Nat × List Char × Option Int)
  /-- Whether month and day have two digits. -/
  isPadded : Bool

/-- A number of one or two digits at the front of a word, and how many it has. -/
def shortNumber : List Char → Option (Nat × Nat × List Char)
  | a :: b :: cs =>
    if !Number.isDigit a then none
    else if Number.isDigit b then some (Number.ofDigits 10 [a, b], 2, cs)
    else some (Number.digitValue a, 1, b :: cs)
  | [a] => if Number.isDigit a then some (Number.digitValue a, 1, []) else none
  | [] => none

/-- A number of two digits at the front of a word. -/
def twoDigits (cs : List Char) : Option (Nat × List Char) :=
  match shortNumber cs with
  | some (n, 2, rest) => some (n, rest)
  | _ => none

/-- What follows a character that has to come next. -/
def behind (c : Char) : List Char → Option (List Char)
  | d :: cs => if c == d then some cs else none
  | [] => none

/-- The offset from universal time that the rest of a word is, in seconds. -/
def offset? (cs : List Char) : Option (Option Int) :=
  match cs.dropWhile fun c => c == ' ' || c == '\t' with
  | [] => if cs.isEmpty then some none else none
  | ['Z'] => some (some 0)
  | s :: rest =>
    if s == '+' || s == '-' then do
      let (hours, _, rest) ← shortNumber rest
      let minutes ← match rest with
        | [] => some 0
        | ':' :: rest => match twoDigits rest with
          | some (m, []) => some m
          | _ => none
        | _ => none
      let n : Int := hours * 3600 + minutes * 60
      some (some (if s == '-' then -n else n))
    else none

/-- The time of day, with fraction and offset, that the rest of a word is. -/
def timeOfWord? (cs : List Char) : Option (Nat × Nat × Nat × List Char × Option Int) := do
  let (hour, _, cs) ← shortNumber cs
  let cs ← behind ':' cs
  let (minute, cs) ← twoDigits cs
  let cs ← behind ':' cs
  let (second, cs) ← twoDigits cs
  let (fraction, cs) := match cs with
    | '.' :: rest => (rest.takeWhile Number.isDigit, rest.dropWhile Number.isDigit)
    | cs => ([], cs)
  let offset ← offset? cs
  some (hour, minute, second, fraction, offset)

/-- The date that a word is. -/
def timestamp? (cs : List Char) : Option Timestamp := do
  let yearDigits := cs.take 4
  if yearDigits.length != 4 || !yearDigits.all Number.isDigit then none
  else
    let rest ← behind '-' (cs.drop 4)
    let (month, monthWidth, rest) ← shortNumber rest
    let rest ← behind '-' rest
    let (day, dayWidth, rest) ← shortNumber rest
    let date (time : Option (Nat × Nat × Nat × List Char × Option Int)) : Timestamp :=
      ⟨Number.ofDigits 10 yearDigits, month, day, time, monthWidth == 2 && dayWidth == 2⟩
    match rest with
    | [] => some (date none)
    | c :: more =>
      let isBlank (c : Char) : Bool := c == ' ' || c == '\t'
      if c == 'T' || c == 't' then (timeOfWord? more).map fun t => date (some t)
      else if isBlank c then (timeOfWord? (more.dropWhile isBlank)).map fun t => date (some t)
      else none

/-- A date as a value; it has to be in the calendar. -/
def Timestamp.moment (t : Timestamp) : Except Fault Moment :=
  let d : Date := ⟨t.year, t.month, t.day⟩
  match t.time with
  | none => if d.isValid then .ok (.date d) else .error .malformed
  | some (hour, minute, second, fraction, offset) =>
    let ds := fraction.take 6
    let time : TimeOfDay :=
      ⟨hour, minute, second, Number.ofDigits 10 ds * Nat.pow 10 (6 - ds.length)⟩
    if d.isValid && time.isValid && offset.all (·.natAbs < 86400) then
      .ok (.dateTime d time offset)
    else .error .malformed

end AttrTemplates.Data.Yaml
