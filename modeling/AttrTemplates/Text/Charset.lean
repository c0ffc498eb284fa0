import AttrTemplates.Number.Digits
import AttrTemplates.Text.Charset.Big
import AttrTemplates.Text.Charset.Gb
import AttrTemplates.Text.Charset.Jis
import AttrTemplates.Text.Charset.Ksc
import AttrTemplates.Text.Charset.Names
import AttrTemplates.Text.Charset.Pages

/-!
# `AttrTemplates.Text.Charset`: bytes as characters

A `Charset` says how bytes stand for characters. Decoding yields one item per character, and
`none` for every stretch of bytes that stands for none: `decode` shows such a stretch as
`U+FFFD`, `decodeStrict` stops before it. In UTF-8 the stretch is the longest one that could
still have begun a character, so the byte that disappoints is looked at again; where characters
have several bytes otherwise, it is one byte, or what is left at the end.

In the other direction only one question matters here, which characters a charset `covers`.
-/

set_option autoImplicit false

namespace AttrTemplates.Text

/-- Which byte of a unit comes first. -/
inductive ByteOrder where
  | little
  | big
  deriving DecidableEq, Repr

/-- The charsets. -/
inductive Charset where
  | ascii
  | latin1
  /-- One byte to a character. -/
  | page (p : Page)
  | utf8
  /-- UTF-8 after an optional byte order mark. -/
  | utf8Marked
  /-- Without an order, a byte order mark decides, little-endian by default. -/
  | utf16 (order : Option ByteOrder)
  | utf32 (order : Option ByteOrder)
  | utf7
  /-- Latin-1 with escapes for other characters, `full` ones for control characters and quotes
  as well. -/
  | escapes (full : Bool)
  /-- With a yen sign and an overline in the places of two characters of ASCII, if `roman`. -/
  | shiftJis (roman : Bool)
  | windows31J
  | eucJp
  | iso2022Jp
  | gb2312
  /-- GB 2312 between tildes with braces. -/
  | hz
  | gbk
  | gb18030
  | big5
  | codePage950
  | eucKr
  | codePage949
  deriving DecidableEq, Repr

/-! ### Names -/

/-- The letters, digits and points of a name in lower case, with one underscore for every stretch
of other characters between them. `started` tells that there is something in front, `gap` that
such a stretch has just been passed. -/
def joinedName (started gap : Bool) : List Char → List Char
  | [] => []
  | c :: cs =>
    if c.isAlphanum || c == '.' then
      (if started && gap then ['_'] else []) ++ c.toLower :: joinedName true false cs
    else joinedName started true cs

/-- The charset that the tables know by a name. -/
def Charset.known? (name : String) : Option Charset :=
  match name with
  | "ascii" => some .ascii
  | "latin_1" | "charmap" => some .latin1
  | "utf_8" => some .utf8
  | "utf_8_sig" => some .utf8Marked
  | "utf_16" => some (.utf16 none)
  | "utf_16_le" => some (.utf16 (some .little))
  | "utf_16_be" => some (.utf16 (some .big))
  | "utf_32" => some (.utf32 none)
  | "utf_32_le" => some (.utf32 (some .little))
  | "utf_32_be" => some (.utf32 (some .big))
  | "utf_7" => some .utf7
  | "unicode_escape" => some (.escapes true)
  | "raw_unicode_escape" => some (.escapes false)
  | "shift_jis" => some (.shiftJis false)
  | "shift_jis_roman" => some (.shiftJis true)
  | "cp932" => some .windows31J
  | "euc_jp" => some .eucJp
  | "iso2022_jp" => some .iso2022Jp
  | "gb2312" => some .gb2312
  | "hz" => some .hz
  | "gbk" => some .gbk
  | "gb18030" => some .gb18030
  | "big5" => some .big5
  | "cp950" => some .codePage950
  | "euc_kr" => some .eucKr
  | "cp949" => some .codePage949
  | _ => (pages.find? (·.name == name)).map .page

/-- Encodings of bytes as bytes, which are no charsets. -/
def byteEncodings : List String := [
  "base64_codec", "bz2_codec", "hex_codec", "quopri_codec", "rot_13", "uu_codec", "zlib_codec"]

/-- What is meant by a name for data. -/
inductive NamedEncoding where
  | charset (c : Charset)
  | punycode
  /-- An encoding that has nothing to do with characters. -/
  | bytes
  /-- One that cannot be used, and why. -/
  | refusing (reason : String)
  | unknown
  deriving DecidableEq, Repr

/-- What a name in any spelling means: case and the kind of punctuation do not matter. -/
def namedEncoding (name : String) : NamedEncoding :=
  let joined := String.ofList (joinedName false false name.toList)
  let underscored := String.ofList (joined.toList.map fun c => if c == '.' then '_' else c)
  let known := (nameIn? dataNames joined <|> nameIn? dataNames underscored).getD joined
  if byteEncodings.contains known then .bytes
  else match known, Charset.known? known with
    | "undefined", _ => .refusing "undefined encoding"
    | "punycode", _ => .punycode
    | "idna", _ => .refusing "Unsupported error handling replace"
    | _, some c => .charset c
    | _, none => .unknown

/-- The charset of a name that a document may declare or be written in. -/
def Charset.ofDocumentName? (name : String) : Option Charset :=
  (nameIn? documentNames (String.ofList (name.toList.map Char.toUpper))).bind Charset.known?

/-! ### Bytes one by one -/

/-- The character of a byte. -/
def Page.char? (p : Page) (b : Nat) : Option Char :=
  if b < p.first then some (Char.ofNat b)
  else p.chars.toList[b - p.first]?.filter (· != '\uFFFD')

/-- Whether a byte stands for a character. -/
def Page.has (p : Page) (c : Char) : Bool :=
  c.toNat < p.first || (c != '\uFFFD' && p.chars.contains c)

/-! ### Unicode -/

/-- For the first byte of a UTF-8 character: the bits it brings, the number of bytes to
follow, and the bounds of the second byte. -/
def utf8Lead (b : Nat) : Option (Nat × Nat × Nat × Nat) :=
  if 0xC2 ≤ b && b ≤ 0xDF then some (b - 0xC0, 1, 0x80, 0xBF)
  else if b = 0xE0 then some (0, 2, 0xA0, 0xBF)
  else if b = 0xED then some (0xD, 2, 0x80, 0x9F)
  else if 0xE1 ≤ b && b ≤ 0xEF then some (b - 0xE0, 2, 0x80, 0xBF)
  else if b = 0xF0 then some (0, 3, 0x90, 0xBF)
  else if b = 0xF4 then some (4, 3, 0x80, 0x8F)
  else if 0xF1 ≤ b && b ≤ 0xF3 then some (b - 0xF0, 3, 0x80, 0xBF)
  else none

/-- What a byte that begins a UTF-8 character gives: an item at once, or a character under
way. -/
def utf8Start (b : Nat) : Option (Option Char) × Option (Nat × Nat × Nat × Nat) :=
  if b < 0x80 then (some (some (Char.ofNat b)), none)
  else match utf8Lead b with
    | some lead => (none, some lead)
    | none => (some none, none)

/-- Reads UTF-8. `begun` is the character under way: its bits so far, the number of bytes it
still needs, and the bounds of the next. -/
def utf8Items (begun : Option (Nat × Nat × Nat × Nat)) : List UInt8 → List (Option Char)
  | [] => if begun.isSome then [none] else []
  | byte :: bytes =>
    let b := byte.toNat
    match begun.filter fun (_, _, low, high) => low ≤ b && b ≤ high with
    | some (bits, needed, _, _) =>
      let bits := bits * 0x40 + (b - 0x80)
      if needed ≤ 1 then some (Char.ofNat bits) :: utf8Items none bytes
      else utf8Items (some (bits, needed - 1, 0x80, 0xBF)) bytes
    | none =>
      let broken := if begun.isSome then [none] else []
      let (item?, next) := utf8Start b
      broken ++ item?.toList ++ utf8Items next bytes

/-- The units of two bytes; a last odd byte is no unit. -/
def units16 (order : ByteOrder) : List UInt8 → List (Option Nat)
  | [] => []
  | [_] => [none]
  | a :: b :: bytes =>
    (match order with
      | .little => some (a.toNat + b.toNat * 0x100)
      | .big => some (a.toNat * 0x100 + b.toNat)) :: units16 order bytes

/-- Reads UTF-16 units; `high?` is a high surrogate that waits for its partner. -/
def utf16Items (high? : Option Nat) : List (Option Nat) → List (Option Char)
  | [] => if high?.isSome then [none] else []
  | unit? :: units =>
    let low? := unit?.filter fun u => 0xDC00 ≤ u && u ≤ 0xDFFF
    match high?, low? with
    | some high, some low =>
      some (Char.ofNat (0x10000 + (high - 0xD800) * 0x400 + (low - 0xDC00)))
        :: utf16Items none units
    | _, _ =>
      let broken := if high?.isSome then [none] else []
      match unit? with
      | some u =>
        if 0xD800 ≤ u && u ≤ 0xDBFF then broken ++ utf16Items (some u) units
        else if low?.isSome then broken ++ none :: utf16Items none units
        else broken ++ some (Char.ofNat u) :: utf16Items none units
      | none => broken ++ none :: utf16Items none units

/-- Reads UTF-32. -/
def utf32Items (order : ByteOrder) : List UInt8 → List (Option Char)
  | a :: b :: c :: d :: bytes =>
    let n := match order with
      | .little => a.toNat + 0x100 * (b.toNat + 0x100 * (c.toNat + 0x100 * d.toNat))
      | .big => d.toNat + 0x100 * (c.toNat + 0x100 * (b.toNat + 0x100 * a.toNat))
    (if n < 0xD800 || (0xDFFF < n && n < 0x110000) then some (Char.ofNat n) else none)
      :: utf32Items order bytes
  | [] => []
  | _ => [none]

/-- The value of a digit of base 64. -/
def base64Value? (b : Nat) : Option Nat :=
  "ABCDEFGHIJKLMNOPQRSTUVWXYZabcdefghijklmnopqrstuvwxyz0123456789+/".toList.findIdx?
    (·.toNat == b)

/-- Where a reader of UTF-7 is inside a stretch of base 64: bits that make no unit yet, their
number, and a high surrogate that waits for its partner. -/
structure Base64State where
  bits : Nat := 0
  count : Nat := 0
  high : Option Nat := none

/-- The state behind six more bits, and the characters they complete. -/
def Base64State.add (s : Base64State) (six : Nat) : Base64State × List (Option Char) :=
  let bits := s.bits * 64 + six
  let count := s.count + 6
  if count < 16 then ({ s with bits, count }, [])
  else
    let unit := bits >>> (count - 16)
    let s : Base64State := { s with bits := bits % Nat.pow 2 (count - 16), count := count - 16 }
    let isHigh := 0xD800 ≤ unit && unit ≤ 0xDBFF
    let next : Base64State := { s with high := if isHigh then some unit else none }
    match s.high with
    | some high =>
      if 0xDC00 ≤ unit && unit ≤ 0xDFFF then
        ({ s with high := none },
          [some (Char.ofNat (0x10000 + (high - 0xD800) * 0x400 + (unit - 0xDC00)))])
      else (next, none :: (if isHigh then [] else [some (Char.ofNat unit)]))
    | none =>
      if isHigh then (next, [])
      else (next, [if 0xDC00 ≤ unit && unit ≤ 0xDFFF then none else some (Char.ofNat unit)])

/-- Whether what is left of the bits is more than padding. -/
def Base64State.broken (s : Base64State) : Bool := s.count ≥ 6 || s.bits != 0

/-- Reads UTF-7. -/
def utf7Items (state? : Option Base64State) : (fuel : Nat) → List UInt8 → List (Option Char)
  | 0, _ => []
  | _, [] =>
    if state?.any fun s => s.high.isSome || s.broken then [none] else []
  | fuel + 1, byte :: bytes =>
    let b := byte.toNat
    match state? with
    | some s =>
      match base64Value? b with
      | some six =>
        let (s, items) := s.add six
        items ++ utf7Items (some s) fuel bytes
      | none =>
        if s.broken then none :: utf7Items none fuel bytes
        else
          let alone := if s.high.isSome && b ≤ 127 && b != 0x2B then [none] else []
          alone ++ utf7Items none fuel (if b == 0x2D then bytes else byte :: bytes)
    | none =>
      if b == 0x2B then
        match bytes with
        | 0x2D :: bytes => some '+' :: utf7Items none fuel bytes
        | next :: more =>
          if (base64Value? next.toNat).isSome then utf7Items (some {}) fuel bytes
          else none :: utf7Items none fuel more
        | [] => []
      else (if b ≤ 127 then some (Char.ofNat b) else none) :: utf7Items none fuel bytes

/-- The character of an escape by its letter. -/
def escapeLetters : List (Nat × Nat) := [
  (0x5C, 0x5C), (0x27, 0x27), (0x22, 0x22), (0x62, 8), (0x66, 12), (0x74, 9), (0x6E, 10),
  (0x72, 13), (0x76, 11), (0x61, 7)]

/-- The number of hexadecimal digits behind the letter of an escape. -/
def escapeWidth? (full : Bool) (letter : Nat) : Option Nat :=
  if letter == 0x75 then some 4
  else if letter == 0x55 then some 8
  else if full && letter == 0x78 then some 2
  else none

/-- The longest run of digits of a base at the front of bytes, `limit` of them at most. -/
def digitRun (base limit : Nat) (bytes : List UInt8) : List Char :=
  ((bytes.take limit).map fun b => Char.ofNat b.toNat).takeWhile (Number.isDigitOf base)

/-- Reads Latin-1 with escapes. -/
def escapedItems (full : Bool) : (fuel : Nat) → List UInt8 → List (Option Char)
  | 0, _ => []
  | _, [] => []
  | _ + 1, 0x5C :: [] => [if full then none else some '\\']
  | fuel + 1, 0x5C :: byte :: bytes =>
    let letter := byte.toNat
    match escapeWidth? full letter with
    | some width =>
      let digits := digitRun 16 width bytes
      let n := Number.ofDigits 16 digits
      let item : Option Char :=
        if digits.length == width && n.isValidChar then some (Char.ofNat n) else none
      item :: escapedItems full fuel (bytes.drop digits.length)
    | none =>
      if !full then
        some '\\' :: some (Char.ofNat letter) :: escapedItems full fuel bytes
      else if letter == 10 then escapedItems full fuel bytes
      else match escapeLetters.lookup letter with
        | some n => some (Char.ofNat n) :: escapedItems full fuel bytes
        | none =>
          match digitRun 8 3 (byte :: bytes) with
          | [] => some '\\' :: some (Char.ofNat letter) :: escapedItems full fuel bytes
          | digits =>
            some (Char.ofNat (Number.ofDigits 8 digits))
              :: escapedItems full fuel ((byte :: bytes).drop digits.length)
  | fuel + 1, byte :: bytes => some (Char.ofNat byte.toNat) :: escapedItems full fuel bytes

/-! ### Several bytes to a character -/

/-- What bytes begin with. -/
inductive Head where
  /-- A character of some bytes. -/
  | char (c : Char) (width : Nat)
  /-- Their first byte begins no character. -/
  | wrong
  /-- They break off inside a character. -/
  | short

/-- A character of some bytes, if there is one. -/
def Head.ofChar? (width : Nat) : Option Char → Head
  | some c => .char c width
  | none => .wrong

/-- Reads a charset by what its bytes begin with. -/
def headItems (head : List UInt8 → Head) : (fuel : Nat) → List UInt8 → List (Option Char)
  | 0, _ => []
  | _, [] => []
  | fuel + 1, byte :: bytes =>
    match head (byte :: bytes) with
    | .char c width => some c :: headItems head fuel ((byte :: bytes).drop width)
    | .wrong => none :: headItems head fuel bytes
    | .short => [none]

/-- What bytes begin with in a charset that has ASCII, perhaps more characters of one `single`
byte, and `pairs` of bytes. -/
def pairHead (single : Nat → Option Char) (pairs : Nat → Nat → Option Char) : List UInt8 → Head
  | [] => .short
  | byte :: bytes =>
    let b := byte.toNat
    match (if b < 0x80 then some (Char.ofNat b) else single b), bytes with
    | some c, _ => .char c 1
    | none, [] => .short
    | none, second :: _ => Head.ofChar? 2 (pairs b second.toNat)

/-- No character of one byte. -/
def noSingle (_ : Nat) : Option Char := none

/-- The number of a second byte, of which some do not occur, in their order. -/
def secondIndex? (first last gapFrom gapTo : Nat) (b : Nat) : Option Nat :=
  if b < first || last < b || (gapFrom ≤ b && b ≤ gapTo) then none
  else if b < gapFrom then some (b - first)
  else some (b - first - (gapTo + 1 - gapFrom))

/-- A pair of bytes from `0xA1` on as a row and a cell. -/
def pairCell? (cell? : Nat → Nat → Option Char) (a b : Nat) : Option Char :=
  if a < 0xA1 || b < 0xA1 then none else cell? (a - 0xA1) (b - 0xA1)

/-- The katakana of half width, which have one byte. -/
def halfKatakana? (b : Nat) : Option Char :=
  if 0xA1 ≤ b && b ≤ 0xDF then some (Char.ofNat (0xFF61 + (b - 0xA1))) else none

/-- Whether a character is one of the katakana of half width. -/
def isHalfKatakana (c : Char) : Bool := 0xFF61 ≤ c.toNat && c.toNat ≤ 0xFF9F

/-- A pair of bytes of Shift_JIS as a row and a cell. -/
def shiftJisCell? (cell? : Nat → Nat → Option Char) (a b : Nat) : Option Char := do
  let i ← secondIndex? 0x40 0xFC 0x7F 0x7F b
  let row ← secondIndex? 0x81 0xFC 0xA0 0xDF a
  cell? (2 * row + i / 94) (i % 94)

/-- What bytes begin with in Shift_JIS, two places of ASCII read otherwise if `roman`. -/
def shiftJisHead (roman : Bool) : List UInt8 → Head
  | 0x5C :: _ => .char (if roman then '¥' else '\\') 1
  | 0x7E :: _ => .char (if roman then '‾' else '~') 1
  | bytes => pairHead halfKatakana? (shiftJisCell? jisX0208.cell?) bytes

/-- The characters that Windows has in the rows of JIS X 0208, and behind them. -/
def windowsCell? (row cell : Nat) : Option Char :=
  cellIn? windowsRows row cell <|> jisX0208.cell? row cell

/-- The bytes that are characters in the Japanese of Windows although they have no meaning. -/
def windowsSingle? (b : Nat) : Option Char :=
  if b == 0x80 then some '\x80'
  else if b == 0xA0 then some '\uF8F0'
  else if 0xFD ≤ b then some (Char.ofNat (0xF8F1 + (b - 0xFD)))
  else halfKatakana? b

/-- A pair of bytes in the Japanese of Windows, where some are left to the users. -/
def windowsPair? (a b : Nat) : Option Char :=
  if 0xF0 ≤ a && a ≤ 0xF9 then
    (secondIndex? 0x40 0xFC 0x7F 0x7F b).map fun i => Char.ofNat (0xE000 + 188 * (a - 0xF0) + i)
  else shiftJisCell? windowsCell? a b

/-- What bytes begin with in EUC-JP. -/
def eucJpHead : List UInt8 → Head
  | 0x8E :: bytes =>
    match bytes with
    | [] => .short
    | b :: _ => Head.ofChar? 2 (halfKatakana? b.toNat)
  | 0x8F :: bytes =>
    match bytes with
    | a :: b :: _ => Head.ofChar? 3 (pairCell? jisX0212.cell? a.toNat b.toNat)
    | _ => .short
  | bytes => pairHead noSingle (pairCell? jisX0208.cell?) bytes

/-- The sets between which ISO-2022-JP switches. -/
inductive JisSet where
  | ascii
  | roman
  | kanji
  deriving DecidableEq, Repr

/-- Reads ISO-2022-JP. -/
def iso2022Items (set : JisSet) : (fuel : Nat) → List UInt8 → List (Option Char)
  | 0, _ => []
  | _, [] => []
  | fuel + 1, 0x1B :: 0x28 :: 0x42 :: bytes => iso2022Items .ascii fuel bytes
  | fuel + 1, 0x1B :: 0x28 :: 0x4A :: bytes => iso2022Items .roman fuel bytes
  | fuel + 1, 0x1B :: 0x24 :: 0x40 :: bytes => iso2022Items .kanji fuel bytes
  | fuel + 1, 0x1B :: 0x24 :: 0x42 :: bytes => iso2022Items .kanji fuel bytes
  | fuel + 1, byte :: bytes =>
    let b := byte.toNat
    if b ≥ 0x80 then none :: iso2022Items set fuel bytes
    else if b < 0x20 || set == .ascii then some (Char.ofNat b) :: iso2022Items set fuel bytes
    else if set == .roman then
      some (if b == 0x5C then '¥' else if b == 0x7E then '‾' else Char.ofNat b)
        :: iso2022Items set fuel bytes
    else match bytes with
      | [] => [none]
      | second :: bytes =>
        (if second.toNat < 0x21 then none else jisX0208.cell? (b - 0x21) (second.toNat - 0x21))
          :: iso2022Items set fuel bytes

/-- Reads HZ, between a pair of braces if `paired`. -/
def hzItems (paired : Bool) : (fuel : Nat) → List UInt8 → List (Option Char)
  | 0, _ => []
  | _, [] => []
  | _, [0x7E] => [none]
  | fuel + 1, 0x7E :: second :: bytes =>
    match paired, Char.ofNat second.toNat with
    | false, '~' => some '~' :: hzItems paired fuel bytes
    | false, '\n' => hzItems paired fuel bytes
    | false, '\x7b' => hzItems true fuel bytes
    | true, '\x7d' => hzItems false fuel bytes
    | _, _ => none :: hzItems paired fuel (second :: bytes)
  | fuel + 1, byte :: bytes =>
    let b := byte.toNat
    if b ≥ 0x80 then none :: hzItems paired fuel bytes
    else if !paired then some (Char.ofNat b) :: hzItems paired fuel bytes
    else match bytes with
      | [] => [none]
      | second :: after =>
        match pairCell? gb2312Grid.cell? (b + 0x80) (second.toNat + 0x80) with
        | some c => some c :: hzItems paired fuel after
        | none => none :: hzItems paired fuel bytes

/-- The ideographs that GB 2312 lacks, in the order of their codes. -/
def laterIdeographs : Array Char :=
  let present := gb2312Grid.rows.foldl (fun seen row =>
    row.foldl (fun seen c => seen.setIfInBounds (c.toNat - 0x4E00) true) seen)
    (Array.replicate 0x51A6 false)
  ((List.range 0x51A6).filterMap fun i =>
    if present[i]? == some false then some (Char.ofNat (0x4E00 + i)) else none).toArray

/-- The place of a pair of bytes among those that GBK has for ideographs in the order of their
codes. -/
def gbkIndex? (a b : Nat) : Option Nat := do
  let i ← secondIndex? 0x40 0xFE 0x7F 0x7F b
  if 0x81 ≤ a && a ≤ 0xA0 then pure (190 * (a - 0x81) + i)
  else if 0xAA ≤ a && a ≤ 0xFE && i < 96 then pure (190 * 32 + 96 * (a - 0xAA) + i)
  else none

/-- A pair of bytes of GBK. -/
def gbkPair? (a b : Nat) : Option Char :=
  (secondIndex? 0x40 0xFE 0x7F 0x7F b).bind (runAt? gbkRuns a)
    <|> (gbkIndex? a b).bind (fun i => laterIdeographs[i]?)
    <|> pairCell? gb2312Grid.cell? a b

/-- A character by its number among those that have four bytes in GB 18030. -/
def gb18030Char? (n : Nat) : Option Char :=
  if n < 39420 then
    match gb18030Steps.reverse.find? fun (first, _) => first ≤ n with
    | some (first, code) => some (Char.ofNat (code + (n - first)))
    | none => none
  else if 189000 ≤ n && n - 189000 < 0x100000 then some (Char.ofNat (0x10000 + (n - 189000)))
  else none

/-- The private character of a row and a cell of GB 18030: three blocks are left to users, the
other places have some so that they are not empty. -/
def gb18030Private? (row cell : Nat) : Option Char :=
  if 0xAA ≤ row && row ≤ 0xAF && 96 ≤ cell then
    some (Char.ofNat (0xE000 + 94 * (row - 0xAA) + (cell - 96)))
  else if 0xF8 ≤ row && row ≤ 0xFE && 96 ≤ cell then
    some (Char.ofNat (0xE234 + 94 * (row - 0xF8) + (cell - 96)))
  else if 0xA1 ≤ row && row ≤ 0xA7 && cell < 96 then
    some (Char.ofNat (0xE4C6 + 96 * (row - 0xA1) + cell))
  else gb18030Gaps.findSome? fun (r, first, code, count) =>
    if r == row && first ≤ cell && cell < first + count then
      some (Char.ofNat (code + (cell - first)))
    else none

/-- A pair of bytes of GB 18030. -/
def gb18030Pair? (a b : Nat) : Option Char :=
  gbkPair? a b <|> (secondIndex? 0x40 0xFE 0x7F 0x7F b).bind fun cell =>
    runAt? gb18030Runs a cell <|> gb18030Private? a cell

/-- What bytes begin with in GB 18030. -/
def gb18030Head : List UInt8 → Head
  | byte :: second :: bytes =>
    let a := byte.toNat
    let b := second.toNat
    if 0x80 ≤ a && 0x30 ≤ b && b ≤ 0x39 then
      match bytes with
      | third :: fourth :: _ =>
        let c := third.toNat
        let d := fourth.toNat
        if a < 0x81 || a == 0xFF || c < 0x81 || c == 0xFF || d < 0x30 || 0x39 < d then .wrong
        else
          Head.ofChar? 4
            (gb18030Char? (((a - 0x81) * 10 + (b - 0x30)) * 1260 + (c - 0x81) * 10 + (d - 0x30)))
      | _ => .short
    else pairHead noSingle gb18030Pair? (byte :: second :: bytes)
  | bytes => pairHead noSingle gb18030Pair? bytes

/-- A pair of bytes of Big5 as a row and a cell. -/
def big5Cell? (cell? : Nat → Nat → Option Char) (a b : Nat) : Option Char :=
  if a < 0xA1 then none else (secondIndex? 0x40 0xFE 0x7F 0xA0 b).bind (cell? (a - 0xA1))

/-- The characters of code page 950. -/
def codePage950Cell? (row cell : Nat) : Option Char :=
  runAt? cp950Runs row cell <|> big5Grid.cell? row cell

/-- The syllables that KS X 1001 lacks, in the order of their codes. -/
def laterHangul : Array Char :=
  let present := ksX1001.rows.foldl (fun seen row =>
    row.foldl (fun seen c =>
      if c.toNat < 0xAC00 then seen else seen.setIfInBounds (c.toNat - 0xAC00) true) seen)
    (Array.replicate 11172 false)
  ((List.range 11172).filterMap fun i =>
    if present[i]? == some false then some (Char.ofNat (0xAC00 + i)) else none).toArray

/-- The place of a pair of bytes among those that code page 949 has for more syllables. -/
def hangulIndex? (a b : Nat) : Option Nat :=
  let column : Option Nat :=
    if 0x41 ≤ b && b ≤ 0x5A then some (b - 0x41)
    else if 0x61 ≤ b && b ≤ 0x7A then some (b - 0x61 + 26)
    else if 0x81 ≤ b && b ≤ 0xFE then some (b - 0x81 + 52)
    else none
  column.bind fun i =>
    if 0x81 ≤ a && a ≤ 0xA0 then some (178 * (a - 0x81) + i)
    else if 0xA1 ≤ a && b < 0xA1 then some (178 * 32 + 84 * (a - 0xA1) + i)
    else none

/-- A pair of bytes of code page 949. -/
def codePage949Pair? (a b : Nat) : Option Char :=
  (hangulIndex? a b).bind (fun i => laterHangul[i]?) <|> pairCell? ksX1001.cell? a b

/-- Which of the thirty consonants, in the order of their codes, can begin a syllable. -/
def initialConsonants : List Nat :=
  [0, 1, 3, 6, 7, 8, 16, 17, 18, 20, 21, 22, 23, 24, 25, 26, 27, 28, 29]

/-- Which of them can end one. -/
def finalConsonants : List Nat := (List.range 30).filter fun i => !([7, 18, 24].contains i)

/-- The place of a byte for a consonant among those listed. -/
def consonant? (known : List Nat) (b : Nat) : Option Nat :=
  if b < 0xA1 then none else known.idxOf? (b - 0xA1)

/-- The syllable that the bytes for its letters make; a filler stands for no letter at the end. -/
def syllable? (first vowel last : Nat) : Option Char := do
  let first ← consonant? initialConsonants first
  let vowel ← if 0xBF ≤ vowel && vowel ≤ 0xD3 then some (vowel - 0xBF) else none
  let last ← if last == 0xD4 then some 0 else (consonant? finalConsonants last).map (· + 1)
  pure (Char.ofNat (0xAC00 + 588 * first + 28 * vowel + last))

/-- What bytes begin with in EUC-KR, where a filler begins a syllable spelt in letters. -/
def eucKrHead : List UInt8 → Head
  | 0xA4 :: 0xD4 :: 0xA4 :: a :: 0xA4 :: b :: 0xA4 :: c :: _ =>
    Head.ofChar? 8 (syllable? a.toNat b.toNat c.toNat)
  | 0xA4 :: 0xD4 :: bytes => if bytes.length < 6 then .short else .wrong
  | bytes => pairHead noSingle (pairCell? ksX1001.cell?) bytes

/-! ### All of them -/

/-- What bytes begin with in the charsets that are read that way. -/
def Charset.head : Charset → List UInt8 → Head
  | .shiftJis roman => shiftJisHead roman
  | .windows31J => pairHead windowsSingle? windowsPair?
  | .eucJp => eucJpHead
  | .gb2312 => pairHead noSingle (pairCell? gb2312Grid.cell?)
  | .gbk => pairHead noSingle gbkPair?
  | .gb18030 => gb18030Head
  | .big5 => pairHead noSingle (big5Cell? big5Grid.cell?)
  | .codePage950 => pairHead noSingle (big5Cell? codePage950Cell?)
  | .eucKr => eucKrHead
  | .codePage949 => pairHead noSingle codePage949Pair?
  | _ => pairHead noSingle fun _ _ => none

/-- The characters of bytes, `none` for each stretch that is none. -/
def Charset.items : Charset → List UInt8 → List (Option Char)
  | .ascii, bytes => bytes.map fun b => if b.toNat < 0x80 then some (Char.ofNat b.toNat) else none
  | .latin1, bytes => bytes.map fun b => some (Char.ofNat b.toNat)
  | .page p, bytes => bytes.map fun b => p.char? b.toNat
  | .utf8, bytes => utf8Items none bytes
  | .utf8Marked, 0xEF :: 0xBB :: 0xBF :: bytes => utf8Items none bytes
  | .utf8Marked, bytes => utf8Items none bytes
  | .utf16 (some order), bytes => utf16Items none (units16 order bytes)
  | .utf16 none, 0xFF :: 0xFE :: bytes => utf16Items none (units16 .little bytes)
  | .utf16 none, 0xFE :: 0xFF :: bytes => utf16Items none (units16 .big bytes)
  | .utf16 none, bytes => utf16Items none (units16 .little bytes)
  | .utf32 (some order), bytes => utf32Items order bytes
  | .utf32 none, 0xFF :: 0xFE :: 0 :: 0 :: bytes => utf32Items .little bytes
  | .utf32 none, 0 :: 0 :: 0xFE :: 0xFF :: bytes => utf32Items .big bytes
  | .utf32 none, bytes => utf32Items .little bytes
  | .utf7, bytes => utf7Items none (2 * bytes.length) bytes
  | .escapes full, bytes => escapedItems full bytes.length bytes
  | .iso2022Jp, bytes => iso2022Items .ascii bytes.length bytes
  | .hz, bytes => hzItems false bytes.length bytes
  | charset, bytes => headItems charset.head bytes.length bytes

/-- The text of bytes, with `U+FFFD` for what is no character. -/
def Charset.decode (charset : Charset) (bytes : List UInt8) : String :=
  String.ofList ((charset.items bytes).map (·.getD '\uFFFD'))

/-- The characters before the first stretch that is none, and whether that is all. -/
def Charset.decodeStrict (charset : Charset) (bytes : List UInt8) : List Char × Bool :=
  let items := charset.items bytes
  ((items.takeWhile Option.isSome).filterMap id, items.all Option.isSome)

/-- Whether a character is one of the Roman letters of Japanese sets. -/
def isRoman (c : Char) : Bool :=
  c == '¥' || c == '‾' || (c.toNat < 0x80 && c != '\\' && c != '~')

/-- Whether a charset can write a character. -/
def Charset.covers (charset : Charset) (c : Char) : Bool :=
  let n := c.toNat
  let isAscii := n < 0x80
  match charset with
  | .ascii => isAscii
  | .latin1 => n < 0x100
  | .page p => p.has c
  | .shiftJis false => isAscii || isHalfKatakana c || jisX0208.has c
  | .shiftJis true => isRoman c || isHalfKatakana c || jisX0208.has c
  | .windows31J =>
    isAscii || isHalfKatakana c || inRows windowsRows c || jisX0208.has c
      || (0xE000 ≤ n && n < 0xE000 + 1880)
  | .eucJp => isAscii || isHalfKatakana c || jisX0208.has c || jisX0212.has c
  | .iso2022Jp => isAscii || isRoman c || jisX0208.has c
  | .gb2312 | .hz => isAscii || gb2312Grid.has c
  | .gbk => isAscii || gb2312Grid.has c || inRuns gbkRuns c || (0x4E00 ≤ n && n ≤ 0x9FA5)
  | .big5 => isAscii || big5Grid.has c
  | .codePage950 => isAscii || big5Grid.has c || inRuns cp950Runs c
  | .eucKr => isAscii || ksX1001.has c
  | .codePage949 => isAscii || ksX1001.has c || (0xAC00 ≤ n && n ≤ 0xD7A3)
  | _ => true

/-- The bytes of a text in UTF-8. -/
def utf8Bytes (s : String) : List UInt8 := s.toUTF8.toList

end AttrTemplates.Text
