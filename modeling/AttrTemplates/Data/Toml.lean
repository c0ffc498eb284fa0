import AttrTemplates.Data.Scan
import AttrTemplates.Number.Digits
import AttrTemplates.Value.Basic

/-!
# `AttrTemplates.Data.Toml`: TOML data

A text of TOML is a list of lines that build up one mapping: assignments to keys, and headers
that name the table which the assignments behind them are made in. No key is assigned twice and
no table is opened twice, so besides the mapping a `Document` keeps the tables that may not be
opened again and the values that may not be added to.
-/

set_option autoImplicit false

namespace AttrTemplates.Data.Toml

open Scan

/-- A key: the names on the way to an entry. -/
abbrev Key := List String

/-- The white space inside a line. -/
def isSpace (c : Char) : Bool := c == ' ' || c == '\t'

/-- White space and line ends. -/
def isSpaceOrLineEnd (c : Char) : Bool := isSpace c || c == '\n'

/-- Passes over white space. -/
def spaces : Scan Unit := skipWhile isSpace

/-- A control character that may stand neither in a comment nor in a text of one line. -/
def isControl (c : Char) : Bool := (c.toNat < 0x20 && c != '\t') || c.toNat == 0x7F

/-- Passes over a comment, if one comes next. -/
def comment : Scan Unit := do
  if (← peek) == some '#' then
    let cs ← takeWhile (· != '\n')
    if cs.any isControl then throw .malformed

/-- Passes over white space, line ends and comments. -/
def gaps : (fuel : Nat) → Scan Unit
  | 0 => pure ()
  | fuel + 1 => do
    skipWhile isSpaceOrLineEnd
    if (← peek) == some '#' then
      comment
      gaps fuel

/-- Passes over everything between two items. -/
def gap : Scan Unit := do gaps ((← rest).length + 1)

/-! ### Texts -/

/-- The character that an escape of one letter stands for. -/
def escaped? : Char → Option Char
  | 'b' => some '\x08'
  | 't' => some '\t'
  | 'n' => some '\n'
  | 'f' => some '\x0c'
  | 'r' => some '\r'
  | '"' => some '"'
  | '\\' => some '\\'
  | _ => none

/-- Reads a character given by the digits of its number. -/
def numberedChar (length : Nat) : Scan Char := do
  let digits := (← rest).take length
  if digits.length != length || !digits.all (Number.isDigitOf 16) then throw .malformed
  skip length
  let n := Number.ofDigits 16 digits
  if n < 0xD800 || (0xDFFF < n && n < 0x110000) then pure (Char.ofNat n) else throw .malformed

/-- Reads an escape, from its backslash. Over several lines, a backslash at the end of a line
removes the white space around the line end. -/
def escape (manyLines : Bool) : Scan (List Char) := do
  skip 1
  match ← peek with
  | some 'u' =>
    skip 1
    pure [← numberedChar 4]
  | some 'U' =>
    skip 1
    pure [← numberedChar 8]
  | some c =>
    match escaped? c with
    | some e =>
      skip 1
      pure [e]
    | none =>
      if manyLines && isSpaceOrLineEnd c then
        spaces
        if (← peek) == none then pure []
        else
          expect "\n"
          skipWhile isSpaceOrLineEnd
          pure []
      else throw .malformed
  | none => throw .malformed

/-- Reads a text with escapes up to its closing quotes; `read` is what came before, in
reverse. -/
def escapedText (manyLines : Bool) (read : List Char) : (fuel : Nat) → Scan (List Char)
  | 0 => throw .malformed
  | fuel + 1 => do
    match ← peek with
    | none => throw .malformed
    | some '"' =>
      if !manyLines then
        skip 1
        pure read.reverse
      else if ← accept "\"\"\"" then pure read.reverse
      else
        skip 1
        escapedText manyLines ('"' :: read) fuel
    | some '\\' =>
      let cs ← escape manyLines
      escapedText manyLines (cs.reverse ++ read) fuel
    | some c =>
      if isControl c && !(manyLines && c == '\n') then throw .malformed
      skip 1
      escapedText manyLines (c :: read) fuel

/-- Reads a text as it is up to three closing apostrophes. -/
def literalLines (read : List Char) : (fuel : Nat) → Scan (List Char)
  | 0 => throw .malformed
  | fuel + 1 => do
    if ← accept "'''" then pure read.reverse
    else match ← peek with
      | none => throw .malformed
      | some c =>
        if isControl c && c != '\n' then throw .malformed
        skip 1
        literalLines (c :: read) fuel

/-- Reads a text of one line in quotes. -/
def quotedText : Scan String := do
  skip 1
  pure (String.ofList (← escapedText false [] ((← rest).length + 1)))

/-- Reads a text of one line in apostrophes. -/
def literalText : Scan String := do
  skip 1
  let cs ← takeWhile fun c => c != '\'' && !isControl c
  expect "'"
  pure (String.ofList cs)

/-- Reads the quotes that belong to a text because they stand right before its closing ones; of
five in a row two do. -/
def quotesBehind (quote : String) : Scan String := do
  if !(← accept quote) then pure ""
  else if !(← accept quote) then pure quote
  else pure (quote ++ quote)

/-- Reads a text, from its opening quotes. A line end right behind three of them does not belong
to it. -/
def text : Scan String := do
  if ← accept "\"\"\"" then
    let _ ← accept "\n"
    let cs ← escapedText true [] ((← rest).length + 1)
    pure (String.ofList cs ++ (← quotesBehind "\""))
  else if ← accept "'''" then
    let _ ← accept "\n"
    let cs ← literalLines [] ((← rest).length + 1)
    pure (String.ofList cs ++ (← quotesBehind "'"))
  else if (← peek) == some '"' then quotedText
  else literalText

/-! ### Dates and numbers -/

/-- A number of exactly `width` digits. -/
def fixedDigits (width : Nat) (cs : List Char) : Option (Nat × List Char) :=
  let ds := cs.take width
  if ds.length == width && ds.all Number.isDigit then some (Number.ofDigits 10 ds, cs.drop width)
  else none

/-- What follows a character that has to come next. -/
def behind (c : Char) : List Char → Option (List Char)
  | d :: cs => if c == d then some cs else none
  | [] => none

/-- The microseconds that the digits of a fraction stand for; those behind the sixth do not
count. -/
def microseconds (digits : List Char) : Nat :=
  let ds := digits.take 6
  Number.ofDigits 10 ds * Nat.pow 10 (6 - ds.length)

/-- The time of day at the front of a text. -/
def time? (cs : List Char) : Option (TimeOfDay × List Char) := do
  let (hour, cs) ← fixedDigits 2 cs
  let cs ← behind ':' cs
  let (minute, cs) ← fixedDigits 2 cs
  let cs ← behind ':' cs
  let (second, cs) ← fixedDigits 2 cs
  let (fraction, cs) := match cs with
    | '.' :: c :: rest =>
      if Number.isDigit c then
        (microseconds ((c :: rest).takeWhile Number.isDigit), (c :: rest).dropWhile Number.isDigit)
      else (0, cs)
    | _ => (0, cs)
  let t : TimeOfDay := ⟨hour, minute, second, fraction⟩
  if t.isValid then some (t, cs) else none

/-- The offset from universal time at the front of a text, in seconds. -/
def offset? (cs : List Char) : Option (Int × List Char) :=
  match cs with
  | c :: rest =>
    if c == 'Z' || c == 'z' then some (0, rest)
    else if c == '+' || c == '-' then do
      let (hours, rest) ← fixedDigits 2 rest
      let rest ← behind ':' rest
      let (minutes, rest) ← fixedDigits 2 rest
      if hours < 24 && minutes < 60 then
        let n : Int := hours * 3600 + minutes * 60
        some (if c == '-' then -n else n, rest)
      else none
    else none
  | [] => none

/-- The date at the front of a text, which need not be a day of the calendar. -/
def date? (cs : List Char) : Option (Date × List Char) := do
  let (year, cs) ← fixedDigits 4 cs
  let cs ← behind '-' cs
  let (month, cs) ← fixedDigits 2 cs
  let cs ← behind '-' cs
  let (day, cs) ← fixedDigits 2 cs
  if 1 ≤ month && month ≤ 12 && 1 ≤ day && day ≤ 31 then some (⟨year, month, day⟩, cs) else none

/-- The moment at the front of a text: a date, perhaps with a time and an offset, or a time. -/
def moment? (cs : List Char) : Option (Moment × List Char) :=
  match date? cs with
  | some (d, afterDate) =>
    match afterDate with
    | c :: rest =>
      if c == 'T' || c == 't' || c == ' ' then
        match time? rest with
        | some (t, afterTime) =>
          match offset? afterTime with
          | some (o, afterOffset) => some (.dateTime d t (some o), afterOffset)
          | none => some (.dateTime d t none, afterTime)
        | none => some (.date d, afterDate)
      else some (.date d, afterDate)
    | [] => some (.date d, [])
  | none => (time? cs).map fun (t, rest) => (.time t none, rest)

/-- Whether the date of a moment, if it has one, is a day of the calendar. -/
def onCalendar : Moment → Bool
  | .date d => d.isValid
  | .time .. => true
  | .dateTime d _ _ => d.isValid

/-- More digits, single underscores between them left out. -/
def moreDigits (isDigit : Char → Bool) : List Char → List Char × List Char
  | '_' :: c :: cs =>
    if isDigit c then
      let (ds, rest) := moreDigits isDigit cs
      (c :: ds, rest)
    else ([], '_' :: c :: cs)
  | c :: cs =>
    if isDigit c then
      let (ds, rest) := moreDigits isDigit cs
      (c :: ds, rest)
    else ([], c :: cs)
  | [] => ([], [])

/-- The digits at the front of a text, at least one. -/
def digits? (isDigit : Char → Bool) : List Char → Option (List Char × List Char)
  | c :: cs =>
    if isDigit c then
      let (ds, rest) := moreDigits isDigit cs
      some (c :: ds, rest)
    else none
  | [] => none

/-- The integer in another base at the front of a text. -/
def basedInteger? : List Char → Option (Nat × List Char)
  | '0' :: b :: cs =>
    let base? := match b with
      | 'x' => some 16
      | 'o' => some 8
      | 'b' => some 2
      | _ => none
    base?.bind fun base =>
      (digits? (Number.isDigitOf base) cs).map fun (ds, rest) => (Number.ofDigits base ds, rest)
  | _ => none

/-- The fraction at the front of a text, if there is one. -/
def fractionDigits (cs : List Char) : Option (List Char) × List Char :=
  match cs with
  | '.' :: rest =>
    match digits? Number.isDigit rest with
    | some (ds, rest) => (some ds, rest)
    | none => (none, cs)
  | _ => (none, cs)

/-- The sign at the front of a text, whether it is a minus, and what follows. -/
def signed : List Char → Bool × List Char
  | '-' :: cs => (true, cs)
  | '+' :: cs => (false, cs)
  | cs => (false, cs)

/-- The exponent at the front of a text, if there is one. -/
def exponentDigits (cs : List Char) : Option Int × List Char :=
  match cs with
  | e :: rest =>
    if e == 'e' || e == 'E' then
      let (negative, rest) := signed rest
      match digits? Number.isDigit rest with
      | some (ds, rest) =>
        let n : Int := Number.ofDigits 10 ds
        (some (if negative then -n else n), rest)
      | none => (none, cs)
    else (none, cs)
  | [] => (none, cs)

/-- The decimal number at the front of a text. -/
def decimal? (cs : List Char) : Option (Option Value × List Char) :=
  let (negative, cs) := signed cs
  let whole? := match cs with
    | '0' :: rest => some (['0'], rest)
    | cs => digits? Number.isDigit cs
  whole?.map fun (whole, rest) =>
    let (fraction?, rest) := fractionDigits rest
    let (exponent?, rest) := exponentDigits rest
    match fraction?, exponent? with
    | none, none =>
      let n : Int := Number.ofDigits 10 whole
      if whole.length > Number.maxDigits then (none, rest)
      else (some (.int (if negative then -n else n)), rest)
    | _, _ =>
      let places := fraction?.getD []
      (some (.float (Number.decimal negative (Number.ofDigits 10 (whole ++ places))
        (exponent?.getD 0 - places.length))), rest)

/-- Reads a number that is written as a word. -/
def namedNumber : Scan Value := do
  let (negative, cs) := signed (← rest)
  set cs
  if ← accept "inf" then pure (.float (if negative then -1.0 / 0.0 else 1.0 / 0.0))
  else
    expect "nan"
    pure (.float (0.0 / 0.0))

/-- Reads a date, a time or a number. -/
def dateOrNumber : Scan Value := do
  let cs ← rest
  match moment? cs with
  | some (m, behind) =>
    if !onCalendar m then throw .malformed
    set behind
    pure (.moment m)
  | none =>
    match basedInteger? cs with
    | some (n, behind) =>
      set behind
      pure (.int n)
    | none =>
      match decimal? cs with
      | some (some v, behind) =>
        set behind
        pure v
      | some (none, _) => throw .malformed
      | none => namedNumber

/-! ### Keys and values -/

/-- A character of a key without quotes. -/
def isBareKeyChar (c : Char) : Bool := c.isAlphanum || c == '-' || c == '_'

/-- Reads one name of a key. -/
def keyPart : Scan String := do
  match ← peek with
  | some '"' => quotedText
  | some '\'' => literalText
  | _ =>
    let cs ← takeWhile isBareKeyChar
    if cs.isEmpty then throw .malformed
    pure (String.ofList cs)

/-- Reads the names of a key behind the first. -/
def keyParts (read : Key) : (fuel : Nat) → Scan Key
  | 0 => throw .malformed
  | fuel + 1 => do
    spaces
    if ← accept "." then
      spaces
      let part ← keyPart
      keyParts (read ++ [part]) fuel
    else pure read

/-- Reads a key and the white space behind it. -/
def key : Scan Key := do
  let part ← keyPart
  keyParts [part] ((← rest).length + 1)

/-- Whether a key leads to another or is the same. -/
def leadsTo (k k' : Key) : Bool := !k.isEmpty && k.isPrefixOf k'

/-- The way to a key's last name, and that name. -/
def wayAndName (k : Key) : Key × String := (k.dropLast, k.getLastD "")

/-- Changes the mapping that a key leads to, with mappings made on the way where there is
nothing. With `intoLists` the way through a list leads to its last item. -/
def inTable (intoLists : Bool) (f : Entries → Option Entries) : Key → Entries → Option Entries
  | [], entries => f entries
  | k :: ks, entries =>
    match Entries.get? entries k with
    | none => (inTable intoLists f ks []).map fun inner => Entries.bind entries k (.map inner)
    | some (.map inner) =>
      (inTable intoLists f ks inner).map fun inner => Entries.bind entries k (.map inner)
    | some (.list items) =>
      match intoLists, items.getLast? with
      | true, some (.map inner) =>
        (inTable intoLists f ks inner).map fun inner =>
          Entries.bind entries k (.list (items.dropLast ++ [.map inner]))
      | _, _ => none
    | some _ => none

/-- Adds an entry under a name that is new. -/
def addEntry (name : String) (v : Value) (entries : Entries) : Option Entries :=
  if (Entries.get? entries name).isSome then none else some (Entries.bind entries name v)

/-- Whether a value is a mapping or list, and so closed to additions once it is complete. -/
def isCollection : Value → Bool
  | .map _ | .list _ => true
  | _ => false

/-- The deepest nesting of values that is read. -/
def maxDepth : Nat := 490

mutual

/-- Reads a value that lies in `depth` others. -/
def value (depth : Nat) : (fuel : Nat) → Scan Value
  | 0 => throw .malformed
  | fuel + 1 => do
    if depth > maxDepth then throw (.failure .nestingTooDeep)
    match ← peek with
    | none => throw .malformed
    | some '"' => pure (.str (← text))
    | some '\'' => pure (.str (← text))
    | some '[' =>
      skip 1
      gap
      if ← accept "]" then pure (.list [])
      else pure (.list (← items (depth + 1) [] fuel))
    | some '{' =>
      skip 1
      spaces
      if ← accept "\x7d" then pure (.map [])
      else pure (.map (← inlineEntries (depth + 1) [] [] fuel))
    | some _ =>
      if ← accept "true" then pure (.bool true)
      else if ← accept "false" then pure (.bool false)
      else dateOrNumber

/-- Reads the items of an array, from the first one on; `read` are those before, in reverse. A
comma may stand behind the last. -/
def items (depth : Nat) (read : List Value) : (fuel : Nat) → Scan (List Value)
  | 0 => throw .malformed
  | fuel + 1 => do
    let v ← value depth fuel
    gap
    if ← accept "]" then pure (v :: read).reverse
    else
      expect ","
      gap
      if ← accept "]" then pure (v :: read).reverse
      else items depth (v :: read) fuel

/-- Reads the entries of a table on one line, from the first one on; `closed` are the keys of
the collections among those before. -/
def inlineEntries (depth : Nat) (read : Entries) (closed : List Key) : (fuel : Nat) → Scan Entries
  | 0 => throw .malformed
  | fuel + 1 => do
    let k ← key
    expect "="
    spaces
    let v ← value depth fuel
    if closed.any fun c => leadsTo c k then throw .malformed
    let (way, name) := wayAndName k
    match inTable false (addEntry name v) way read with
    | none => throw .malformed
    | some read =>
      spaces
      if ← accept "\x7d" then pure read
      else
        expect ","
        spaces
        inlineEntries depth read (if isCollection v then k :: closed else closed) fuel

end

/-! ### Documents -/

/-- What the lines read so far have built up. -/
structure Document where
  entries : Entries
  /-- The table that assignments are made in. -/
  table : Key
  /-- The tables that may not be opened again. -/
  opened : List Key
  /-- The tables that assignments with dotted keys have made since the last header; they may
  not be opened by a header. -/
  dotted : List Key
  /-- The values that nothing may be added to. -/
  closed : List Key

/-- Whether a key leads into a value that nothing may be added to. -/
def Document.isClosed (d : Document) (k : Key) : Bool := d.closed.any fun c => leadsTo c k

/-- The keys on the way to a key, itself and the empty one left out, each behind those of a
table. -/
def tablesOnWay (table : Key) (k : Key) : List Key :=
  (List.range k.length).tail.map fun i => table ++ k.take i

/-- Makes an assignment. -/
def Document.assign (d : Document) (k : Key) (v : Value) : Option Document :=
  let (way, name) := wayAndName k
  let made := tablesOnWay d.table k
  if made.any (d.opened.contains ·) || d.isClosed (d.table ++ way) then none
  else
    (inTable true (addEntry name v) (d.table ++ way) d.entries).map fun entries =>
      { d with
        entries
        dotted := made ++ d.dotted
        closed := if isCollection v then (d.table ++ k) :: d.closed else d.closed }

/-- What remains to be minded at a header: tables made by dotted keys before it count as
opened. -/
def Document.settled (d : Document) : Document :=
  { d with opened := d.dotted ++ d.opened, dotted := [] }

/-- Opens a table. -/
def Document.openTable (d : Document) (k : Key) : Option Document :=
  if d.opened.contains k || d.isClosed k then none
  else
    (inTable true some k d.entries).map fun entries =>
      { d with entries, table := k, opened := k :: d.opened }

/-- Adds a table to the list under a name, or makes the list. -/
def addTable (name : String) (entries : Entries) : Option Entries :=
  match Entries.get? entries name with
  | none => some (Entries.bind entries name (.list [.map []]))
  | some (.list items) => some (Entries.bind entries name (.list (items ++ [.map []])))
  | some _ => none

/-- Opens a further table in a list of tables, in which everything below can be opened anew. -/
def Document.openItem (d : Document) (k : Key) : Option Document :=
  if d.isClosed k then none
  else
    let (way, name) := wayAndName k
    (inTable true (addTable name) way d.entries).map fun entries =>
      { d with
        entries
        table := k
        opened := k :: d.opened.filter fun o => !leadsTo k o
        closed := d.closed.filter fun c => !leadsTo k c }

/-- What a step leads to; a step that is not allowed makes a text malformed. -/
def allowed {α : Type} : Option α → Scan α
  | some a => pure a
  | none => throw .malformed

/-- Reads what stands on a line before its comment. -/
def statement (d : Document) : Scan Document := do
  match ← peek with
  | some '[' =>
    let d := d.settled
    if ← accept "[[" then
      spaces
      let k ← key
      let d ← allowed (d.openItem k)
      expect "]]"
      spaces
      pure d
    else
      skip 1
      spaces
      let k ← key
      let d ← allowed (d.openTable k)
      expect "]"
      spaces
      pure d
  | some '#' => pure d
  | _ =>
    let k ← key
    expect "="
    spaces
    let v ← value 0 ((← rest).length + 1)
    let d ← allowed (d.assign k v)
    spaces
    pure d

/-- Reads lines up to the end of the text. -/
def lines (d : Document) : (fuel : Nat) → Scan Document
  | 0 => throw .malformed
  | fuel + 1 => do
    spaces
    match ← peek with
    | none => pure d
    | some '\n' =>
      skip 1
      lines d fuel
    | some _ =>
      let d ← statement d
      comment
      if (← peek) == none then pure d
      else
        expect "\n"
        lines d fuel

/-- A text with single line feeds at the ends of its lines. -/
def plainLineEnds : List Char → List Char
  | '\r' :: '\n' :: cs => '\n' :: plainLineEnds cs
  | c :: cs => c :: plainLineEnds cs
  | [] => []

/-- Reads a text of TOML. -/
def read (s : String) : Except Fault Value :=
  let cs := plainLineEnds s.toList
  (Scan.all (lines ⟨[], [], [], [], []⟩ (cs.length + 1)) cs).map fun d => .map d.entries

end AttrTemplates.Data.Toml
