import AttrTemplates.Xml.Source

/-!
# `AttrTemplates.Proofs.Text.Decoding`: reading bytes of UTF-8

Text is turned into bytes in UTF-8. Read in UTF-8 they are the text again (`items_utf8Bytes`). Read
in another charset they may be anything, but not what is made of a few signs, letters and blanks:
documents declare charsets of two kinds, and it depends on the kind what becomes of that.

* In a charset that keeps ASCII, such characters are read as they are, each by itself, whatever
  bytes come behind them (`items_of_keepsAscii`).
* In one with wide units, what two characters of ASCII begin is no character of ASCII
  (`items_of_isWide`).
-/

set_option autoImplicit false

namespace AttrTemplates.Text

/-! ### UTF-8 -/

/-- The bytes of an array from a place on, behind those read already. -/
theorem toList_loop (bs : ByteArray) (i : Nat) (read : List UInt8) :
    ByteArray.toList.loop bs i read = read.reverse ++ bs.data.toList.drop i := by
  -- The loop goes up to the size of the array.
  induction h : bs.size - i generalizing i read with
  | zero =>
    have hi : bs.data.toList.length ≤ i := by
      rw [Array.length_toList]
      show bs.size ≤ i
      omega
    rw [ByteArray.toList.loop.eq_def, if_neg (by omega), List.drop_eq_nil_of_le hi, List.append_nil]
  | succ n ih =>
    have hsize : i < bs.size := by omega
    have hi : i < bs.data.toList.length := by
      rw [Array.length_toList]
      exact hsize
    have hget : bs.get! i = bs.data.toList[i] := by
      show bs.data[i]! = _
      rw [getElem!_pos bs.data i hsize, Array.getElem_toList]
    rw [ByteArray.toList.loop.eq_def, if_pos hsize, ih (i + 1) _ (by omega), List.reverse_cons,
      List.append_assoc, List.drop_eq_getElem_cons hi, hget]
    rfl

/-- The bytes of a text are those of its characters. -/
theorem utf8Bytes_eq_flatMap (s : String) : utf8Bytes s = s.toList.flatMap String.utf8EncodeChar := by
  have hencode : s.toUTF8 = (s.toList.flatMap String.utf8EncodeChar).toByteArray :=
    String.utf8Encode_toList.symm
  unfold utf8Bytes ByteArray.toList
  rw [hencode, toList_loop, List.data_toByteArray]
  rfl

/-- The bytes of two texts are those of one after the other. -/
theorem utf8Bytes_append (s t : String) : utf8Bytes (s ++ t) = utf8Bytes s ++ utf8Bytes t := by
  rw [utf8Bytes_eq_flatMap, utf8Bytes_eq_flatMap, utf8Bytes_eq_flatMap, String.toList_append,
    List.flatMap_append]

/-- A byte that begins a character of several. -/
theorem utf8Items_lead {b bits needed low high : Nat} (hb : b < 256) (hfirst : 0x80 ≤ b)
    (hlead : utf8Lead b = some (bits, needed, low, high)) (bytes : List UInt8) :
    utf8Items none (UInt8.ofNat b :: bytes) = utf8Items (some (bits, needed, low, high)) bytes := by
  have hbyte : (UInt8.ofNat b).toNat = b := Nat.mod_eq_of_lt hb
  rw [utf8Items, hbyte, utf8Start, if_neg (Nat.not_lt.mpr hfirst), hlead]
  rfl

/-- A byte with six more bits. -/
theorem utf8Items_continued {bits needed low high six : Nat} (hsix : six < 0x40)
    (hlow : low ≤ six + 0x80) (hhigh : six + 0x80 ≤ high) (bytes : List UInt8) :
    utf8Items (some (bits, needed, low, high)) (UInt8.ofNat (six + 0x80) :: bytes)
      = if needed ≤ 1 then some (Char.ofNat (bits * 0x40 + six)) :: utf8Items none bytes
        else utf8Items (some (bits * 0x40 + six, needed - 1, 0x80, 0xBF)) bytes := by
  have hbyte : (UInt8.ofNat (six + 0x80)).toNat = six + 0x80 := by
    have hlt : six + 0x80 < 256 := by omega
    exact Nat.mod_eq_of_lt hlt
  rw [utf8Items, hbyte, Option.filter_some, if_pos (by simp [hlow, hhigh])]
  dsimp only
  rw [Nat.add_sub_cancel]

/-- The first of two bytes. -/
theorem utf8Lead_two {v : Nat} (hlow : 0x80 ≤ v) (hhigh : v < 0x800) :
    utf8Lead (v / 0x40 + 0xC0) = some (v / 0x40, 1, 0x80, 0xBF) := by
  have hfirst : 0xC2 ≤ v / 0x40 + 0xC0 ∧ v / 0x40 + 0xC0 ≤ 0xDF := by omega
  unfold utf8Lead
  rw [if_pos (by simpa using hfirst), Nat.add_sub_cancel]

/-- The first of three bytes. What it wants of the second is so for all characters. -/
theorem utf8Lead_three {v : Nat} (hlow : 0x800 ≤ v) (hhigh : v < 0x10000)
    (hwhole : v < 0xD800 ∨ 0xDFFF < v) : ∃ low high,
      utf8Lead (v / 0x1000 + 0xE0) = some (v / 0x1000, 2, low, high) ∧
        low ≤ v / 0x40 % 0x40 + 0x80 ∧ v / 0x40 % 0x40 + 0x80 ≤ high := by
  have hfirst : ∀ n, v / 0x1000 = n → n < 0x10 := by omega
  unfold utf8Lead
  -- Behind the first lead there are bounds that leave out what has a shorter form.
  by_cases hshort : v / 0x1000 = 0
  · rw [hshort]
    exact ⟨0xA0, 0xBF, by decide, by omega, by omega⟩
  -- Behind this one those that leave out halves of characters.
  by_cases hhalves : v / 0x1000 = 0xD
  · rw [hhalves]
    exact ⟨0x80, 0x9F, by decide, by omega, by omega⟩
  have htwo : (0xC2 ≤ v / 0x1000 + 0xE0 && v / 0x1000 + 0xE0 ≤ 0xDF) = false := by simp
  have hthree : (0xE1 ≤ v / 0x1000 + 0xE0 && v / 0x1000 + 0xE0 ≤ 0xEF) = true := by simp; omega
  refine ⟨0x80, 0xBF, ?_, by omega, by omega⟩
  rw [htwo, if_neg (by decide), if_neg (by omega), if_neg (by omega), hthree, if_pos rfl,
    Nat.add_sub_cancel]

/-- The first of four bytes. -/
theorem utf8Lead_four {v : Nat} (hlow : 0x10000 ≤ v) (hhigh : v < 0x110000) : ∃ low high,
    utf8Lead (v / 0x40000 + 0xF0) = some (v / 0x40000, 3, low, high) ∧
      low ≤ v / 0x1000 % 0x40 + 0x80 ∧ v / 0x1000 % 0x40 + 0x80 ≤ high := by
  unfold utf8Lead
  by_cases hshort : v / 0x40000 = 0
  · rw [hshort]
    exact ⟨0x90, 0xBF, by decide, by omega, by omega⟩
  by_cases hlast : v / 0x40000 = 4
  · rw [hlast]
    exact ⟨0x80, 0x8F, by decide, by omega, by omega⟩
  have htwo : (0xC2 ≤ v / 0x40000 + 0xF0 && v / 0x40000 + 0xF0 ≤ 0xDF) = false := by simp
  have hthree : (0xE1 ≤ v / 0x40000 + 0xF0 && v / 0x40000 + 0xF0 ≤ 0xEF) = false := by simp
  have hfour : (0xF1 ≤ v / 0x40000 + 0xF0 && v / 0x40000 + 0xF0 ≤ 0xF3) = true := by simp; omega
  refine ⟨0x80, 0xBF, ?_, by omega, by omega⟩
  rw [htwo, if_neg (by decide), if_neg (by omega), if_neg (by omega), hthree, if_neg (by decide),
    if_neg (by omega), if_neg (by omega), hfour, if_pos rfl, Nat.add_sub_cancel]

/-- The bytes of a character are read as that character. -/
theorem utf8Items_utf8EncodeChar (c : Char) (bytes : List UInt8) :
    utf8Items none (String.utf8EncodeChar c ++ bytes) = some c :: utf8Items none bytes := by
  have hc : Char.ofNat c.val.toNat = c := Char.ofNat_toNat c
  have hvalid : c.val.toNat < 0xD800 ∨ 0xDFFF < c.val.toNat ∧ c.val.toNat < 0x110000 := c.valid
  unfold String.utf8EncodeChar
  generalize c.val.toNat = v at hc hvalid
  dsimp only
  -- One byte, then two, three and four.
  split
  · rename_i hv
    have hbyte : (UInt8.ofNat v).toNat = v := Nat.mod_eq_of_lt (by omega)
    have hstart : utf8Start v = (some (some c), none) := by
      unfold utf8Start
      rw [if_pos (by omega), hc]
    rw [List.singleton_append, utf8Items, hbyte, hstart]
    rfl
  split
  · have hbits : v / 64 % 32 + 192 = v / 0x40 + 0xC0 := by omega
    have hwhole : v / 0x40 * 0x40 + v % 0x40 = v := by omega
    rw [hbits, List.cons_append, utf8Items_lead (by omega) (by omega) (utf8Lead_two (by omega) (by omega)),
      List.singleton_append, utf8Items_continued (by omega) (by omega) (by omega),
      if_pos (by decide), hwhole, hc]
  split
  · obtain ⟨low, high, hlead, hlow, hhigh⟩ := utf8Lead_three (v := v) (by omega) (by omega) (by omega)
    have hbits : v / 4096 % 16 + 224 = v / 0x1000 + 0xE0 := by omega
    have hwhole : (v / 0x1000 * 0x40 + v / 0x40 % 0x40) * 0x40 + v % 0x40 = v := by omega
    rw [hbits, List.cons_append, utf8Items_lead (by omega) (by omega) hlead, List.cons_append,
      utf8Items_continued (by omega) hlow hhigh, if_neg (by decide), List.singleton_append,
      utf8Items_continued (by omega) (by omega) (by omega), if_pos (by decide), hwhole, hc]
  · obtain ⟨low, high, hlead, hlow, hhigh⟩ := utf8Lead_four (v := v) (by omega) (by omega)
    have hbits : v / 262144 % 8 + 240 = v / 0x40000 + 0xF0 := by omega
    have hwhole : ((v / 0x40000 * 0x40 + v / 0x1000 % 0x40) * 0x40 + v / 0x40 % 0x40) * 0x40
        + v % 0x40 = v := by omega
    rw [hbits, List.cons_append, utf8Items_lead (by omega) (by omega) hlead, List.cons_append,
      utf8Items_continued (by omega) hlow hhigh, if_neg (by decide), List.cons_append,
      utf8Items_continued (by omega) (by omega) (by omega), if_neg (by decide),
      List.singleton_append, utf8Items_continued (by omega) (by omega) (by omega),
      if_pos (by decide), hwhole, hc]

/-- The bytes of a text are read as that text. -/
theorem items_utf8Bytes (s : String) : Charset.utf8.items (utf8Bytes s) = s.toList.map some := by
  show utf8Items none (utf8Bytes s) = _
  rw [utf8Bytes_eq_flatMap]
  induction s.toList with
  | nil => rfl
  | cons c cs ih => rw [List.flatMap_cons, utf8Items_utf8EncodeChar, ih, List.map_cons]

/-- What characters are read in front of others is read, and the others decide whether that is
all. -/
theorem Charset.decodeStrict_of_items {charset : Charset} {bytes bytes' : List UInt8}
    {cs : List Char} (h : charset.items bytes = cs.map some ++ charset.items bytes') :
    charset.decodeStrict bytes
      = (cs ++ (charset.decodeStrict bytes').1, (charset.decodeStrict bytes').2) := by
  have htaken : ∀ cs : List Char,
      ((cs.map some ++ charset.items bytes').takeWhile Option.isSome).filterMap id
        = cs ++ ((charset.items bytes').takeWhile Option.isSome).filterMap id := by
    intro cs
    induction cs with
    | nil => rfl
    | cons c cs ih => simp
  have hall : (cs.map some ++ charset.items bytes').all Option.isSome
      = (charset.items bytes').all Option.isSome := by simp
  unfold decodeStrict
  dsimp only
  rw [h, htaken, hall]

/-- No bytes are no characters in any charset. -/
theorem Charset.decodeStrict_nil (charset : Charset) : charset.decodeStrict [] = ([], true) := by
  have hitems : charset.items [] = [] := by
    cases charset with
    | utf16 order | utf32 order => cases order <;> rfl
    | _ => rfl
  unfold decodeStrict
  rw [hitems]
  rfl

/-- The bytes of a text in UTF-8 are decoded to the text. -/
theorem decodeStrict_utf8Bytes (s : String) :
    Charset.utf8.decodeStrict (utf8Bytes s) = (s.toList, true) := by
  have hitems : Charset.utf8.items (utf8Bytes s) = s.toList.map some ++ Charset.utf8.items [] := by
    rw [items_utf8Bytes]
    exact (List.append_nil _).symm
  rw [Charset.decodeStrict_of_items hitems]
  exact congrArg (fun cs => (cs, true)) (List.append_nil _)

/-! ### Charsets that keep ASCII -/

/-- A character of ASCII that begins nothing in the charsets that keep ASCII. -/
def isPlainAscii (c : Char) : Bool :=
  0 < c.toNat && c.toNat < 0x80 && c != '\x1B' && c != '+' && c != '\\' && c != '~'

/-- Whether a charset is one that documents declare for bytes of which those of ASCII stand for
themselves. -/
def Charset.keepsAscii : Charset → Bool
  | .ascii | .latin1 | .utf8 | .utf7 | .shiftJis _ | .windows31J | .eucJp | .iso2022Jp | .gb2312
  | .gbk | .gb18030 | .big5 | .codePage950 | .eucKr | .codePage949 => true
  | .page p => 0x80 ≤ p.first
  | _ => false

/-- Whether a charset has units of more than one byte. -/
def Charset.isWide : Charset → Bool
  | .utf16 _ | .utf32 _ => true
  | _ => false

/-- Documents declare no charsets of other kinds. -/
theorem Charset.keepsAscii_or_isWide {name : String} {charset : Charset}
    (h : ofDocumentName? name = some charset) : charset.keepsAscii = true ∨ charset.isWide = true := by
  have hall : documentNames.all (fun entry =>
      (known? entry.1).all fun charset => charset.keepsAscii || charset.isWide) = true := by
    decide +kernel
  obtain ⟨known, hname, hknown⟩ := Option.bind_eq_some_iff.mp h
  obtain ⟨entry, hfound, rfl⟩ := Option.map_eq_some_iff.mp hname
  have hentry := List.all_eq_true.mp hall entry (List.mem_of_find?_eq_some hfound)
  rw [hknown] at hentry
  exact Bool.or_eq_true_iff.mp hentry

/-- The byte of a character of ASCII. It is none of those that begin something. -/
theorem toNat_ofNat_of_isPlainAscii {c : Char} (hc : isPlainAscii c = true) :
    (UInt8.ofNat c.toNat).toNat = c.toNat ∧ (0 < c.toNat ∧ c.toNat < 0x80) ∧
      c.toNat ≠ 0x1B ∧ c.toNat ≠ 0x2B ∧ c.toNat ≠ 0x5C ∧ c.toNat ≠ 0x7E := by
  have hne : ∀ d : Char, c ≠ d → c.toNat ≠ d.toNat := fun d hd h => hd (Char.toNat_inj.mp h)
  unfold isPlainAscii at hc
  simp only [Bool.and_eq_true, decide_eq_true_eq, bne_iff_ne] at hc
  obtain ⟨⟨⟨⟨hascii, hescape⟩, hplus⟩, hbackslash⟩, htilde⟩ := hc
  exact ⟨Nat.mod_eq_of_lt (by omega), hascii, hne _ hescape, hne _ hplus, hne _ hbackslash,
    hne _ htilde⟩

/-- What is read of UTF-7 does not depend on the fuel, if there is enough of it: a byte is looked at
twice at most, once inside a stretch of base 64 and once behind it. -/
theorem utf7Items_fuel {state? : Option Base64State} {fuel fuel' : Nat} {bytes : List UInt8}
    (h : 2 * bytes.length + (if state?.isSome then 1 else 0) ≤ fuel)
    (h' : 2 * bytes.length + (if state?.isSome then 1 else 0) ≤ fuel') :
    utf7Items state? fuel bytes = utf7Items state? fuel' bytes := by
  induction fuel generalizing state? fuel' bytes with
  | zero =>
    obtain ⟨hnone, hempty⟩ : state? = none ∧ bytes = [] := by
      cases state? <;> cases bytes <;> simp at h ⊢
    subst hnone hempty
    cases fuel' <;> rfl
  | succ fuel ih =>
    cases bytes with
    | nil =>
      cases fuel' with
      | zero =>
        cases state? with
        | none => rfl
        | some s => simp at h'
      | succ fuel' => rfl
    | cons byte bytes =>
      obtain ⟨fuel', rfl⟩ : ∃ n, fuel' = n + 1 := ⟨fuel' - 1, by simp at h'; omega⟩
      simp only [List.length_cons] at h h'
      cases state? with
      | some s =>
        simp only [Option.isSome_some, if_true] at h h'
        have hinside : ∀ s, utf7Items (some s) fuel bytes = utf7Items (some s) fuel' bytes :=
          fun s => ih (by simp; omega) (by simp; omega)
        -- The byte behind a stretch is looked at again unless it is a hyphen.
        have houtside : ∀ b : Bool, utf7Items none fuel (if b then bytes else byte :: bytes)
            = utf7Items none fuel' (if b then bytes else byte :: bytes) := by
          intro b
          refine ih ?_ ?_ <;> cases b <;> simp <;> omega
        have hbehind : utf7Items none fuel bytes = utf7Items none fuel' bytes :=
          ih (by simp; omega) (by simp; omega)
        simp only [utf7Items, hinside, houtside, hbehind]
      | none =>
        simp only [Option.isSome_none, Bool.false_eq_true, if_false, Nat.add_zero] at h h'
        have hbehind : utf7Items none fuel bytes = utf7Items none fuel' bytes :=
          ih (by simp; omega) (by simp; omega)
        have hinside : ∀ s, utf7Items (some s) fuel bytes = utf7Items (some s) fuel' bytes :=
          fun s => ih (by simp; omega) (by simp; omega)
        unfold utf7Items
        cases bytes with
        | nil => simp only [hbehind]
        | cons next more =>
          have hfurther : utf7Items none fuel more = utf7Items none fuel' more := by
            simp only [List.length_cons] at h h'
            exact ih (by simp; omega) (by simp; omega)
          simp only [hbehind, hinside]
          split
          · split
            · rename_i heq
              obtain ⟨rfl, rfl⟩ := List.cons.inj heq
              rw [hfurther]
            · rename_i heq
              obtain ⟨rfl, rfl⟩ := List.cons.inj heq
              rw [hfurther]
            · rfl
          · rfl

section

variable {c : Char} (hc : isPlainAscii c = true) (bytes : List UInt8)
include hc

omit bytes in
/-- In UTF-8 a plain character is one byte. -/
theorem utf8EncodeChar_of_isPlainAscii : String.utf8EncodeChar c = [UInt8.ofNat c.toNat] :=
  if_pos (Nat.le_of_lt_succ (toNat_ofNat_of_isPlainAscii hc).2.1.2)

/-- In charsets of pairs it is no first byte of one. -/
theorem pairHead_of_isPlainAscii (single : Nat → Option Char) (pairs : Nat → Nat → Option Char) :
    pairHead single pairs (UInt8.ofNat c.toNat :: bytes) = .char c 1 := by
  obtain ⟨hbyte, ⟨-, hlt⟩, -⟩ := toNat_ofNat_of_isPlainAscii hc
  unfold pairHead
  dsimp only
  rw [hbyte, if_pos hlt, Char.ofNat_toNat]

/-- In Shift JIS it is no first byte of a pair. -/
theorem shiftJisHead_of_isPlainAscii (roman : Bool) :
    shiftJisHead roman (UInt8.ofNat c.toNat :: bytes) = .char c 1 := by
  obtain ⟨hbyte, -, -, -, hbackslash, htilde⟩ := toNat_ofNat_of_isPlainAscii hc
  unfold shiftJisHead
  split
  · rename_i heq
    rw [(List.cons.inj heq).1] at hbyte
    exact absurd hbyte.symm hbackslash
  · rename_i heq
    rw [(List.cons.inj heq).1] at hbyte
    exact absurd hbyte.symm htilde
  · exact pairHead_of_isPlainAscii hc bytes _ _

/-- In EUC-JP it is no first byte of a pair. -/
theorem eucJpHead_of_isPlainAscii : eucJpHead (UInt8.ofNat c.toNat :: bytes) = .char c 1 := by
  obtain ⟨hbyte, ⟨-, hlt⟩, -⟩ := toNat_ofNat_of_isPlainAscii hc
  have hne : ∀ b : UInt8, 0x80 ≤ b.toNat → UInt8.ofNat c.toNat ≠ b := by
    rintro b hb rfl
    omega
  unfold eucJpHead
  split
  · rename_i heq
    exact absurd (List.cons.inj heq).1 (hne _ (by decide))
  · rename_i heq
    exact absurd (List.cons.inj heq).1 (hne _ (by decide))
  · exact pairHead_of_isPlainAscii hc bytes _ _

/-- In EUC-KR it is no first byte of a pair. -/
theorem eucKrHead_of_isPlainAscii : eucKrHead (UInt8.ofNat c.toNat :: bytes) = .char c 1 := by
  obtain ⟨hbyte, ⟨-, hlt⟩, -⟩ := toNat_ofNat_of_isPlainAscii hc
  have hne : UInt8.ofNat c.toNat ≠ 0xA4 := by
    intro h
    rw [h] at hbyte
    have : (0xA4 : UInt8).toNat = 0xA4 := rfl
    omega
  unfold eucKrHead
  split
  · rename_i heq
    exact absurd (List.cons.inj heq).1 hne
  · rename_i heq
    exact absurd (List.cons.inj heq).1 hne
  · exact pairHead_of_isPlainAscii hc bytes _ _

/-- In GB 18030 it is no first byte of several. -/
theorem gb18030Head_of_isPlainAscii : gb18030Head (UInt8.ofNat c.toNat :: bytes) = .char c 1 := by
  obtain ⟨hbyte, ⟨-, hlt⟩, -⟩ := toNat_ofNat_of_isPlainAscii hc
  unfold gb18030Head
  split
  · rename_i byte second rest heq
    have hsmall : ¬ 0x80 ≤ byte.toNat := by
      rw [← (List.cons.inj heq).1, hbyte]
      omega
    simp only [hsmall, decide_false, Bool.false_and, Bool.false_eq_true, if_false]
    rw [← heq]
    exact pairHead_of_isPlainAscii hc bytes _ _
  · exact pairHead_of_isPlainAscii hc bytes _ _

/-- In ISO-2022 it stands for itself, as long as no other set has been called. -/
theorem iso2022Items_of_isPlainAscii (fuel : Nat) :
    iso2022Items .ascii (fuel + 1) (UInt8.ofNat c.toNat :: bytes)
      = some c :: iso2022Items .ascii fuel bytes := by
  obtain ⟨hbyte, ⟨-, hlt⟩, hescape, -⟩ := toNat_ofNat_of_isPlainAscii hc
  have hne : UInt8.ofNat c.toNat ≠ 0x1B := by
    intro h
    rw [h] at hbyte
    exact hescape hbyte.symm
  generalize hbehind : some c :: iso2022Items .ascii fuel bytes = behind
  unfold iso2022Items
  split
  case h_7 hfuel heq =>
    obtain ⟨rfl, rfl⟩ := List.cons.inj heq
    cases hfuel
    dsimp only
    rw [hbyte, if_neg (by omega), Char.ofNat_toNat, ← hbehind]
    simp
  case h_1 => contradiction
  case h_2 => contradiction
  -- The byte does not begin a switch of sets.
  all_goals
    rename_i heq
    exact absurd (List.cons.inj heq).1 hne

/-- A character of ASCII that begins nothing is read as it is, and what stands behind it as if it
stood alone. -/
theorem items_of_keepsAscii {charset : Charset} (h : charset.keepsAscii = true) :
    charset.items (UInt8.ofNat c.toNat :: bytes) = some c :: charset.items bytes := by
  obtain ⟨hbyte, ⟨-, hlt⟩, -, hplus, -, -⟩ := toNat_ofNat_of_isPlainAscii hc
  have hhead : ∀ head : List UInt8 → Head, head (UInt8.ofNat c.toNat :: bytes) = .char c 1 →
      headItems head (bytes.length + 1) (UInt8.ofNat c.toNat :: bytes)
        = some c :: headItems head bytes.length bytes := by
    intro head hchar
    rw [headItems, hchar]
    rfl
  -- The charsets that read a character at a time share one lemma and differ in how a character
  -- begins. The others have recursions of their own.
  cases charset with
  | ascii =>
    show (if _ then _ else _) :: _ = _
    rw [hbyte, if_pos hlt, Char.ofNat_toNat]
    rfl
  | latin1 =>
    show some _ :: _ = _
    rw [hbyte, Char.ofNat_toNat]
    rfl
  | page p =>
    have hfirst : c.toNat < p.first := by
      have hlow : 0x80 ≤ p.first := of_decide_eq_true h
      omega
    show p.char? _ :: _ = _
    rw [Page.char?, hbyte, if_pos hfirst, Char.ofNat_toNat]
    rfl
  | utf8 =>
    have hread := utf8Items_utf8EncodeChar c bytes
    rwa [utf8EncodeChar_of_isPlainAscii hc] at hread
  | utf7 =>
    have hsign : (c.toNat == 0x2B) = false := beq_false_of_ne hplus
    show utf7Items none (2 * (bytes.length + 1)) _ = some c :: utf7Items none (2 * bytes.length) bytes
    rw [Nat.mul_succ, utf7Items.eq_def]
    dsimp only
    rw [hbyte, hsign, if_pos (Nat.le_of_lt_succ hlt), Char.ofNat_toNat]
    refine congrArg (some c :: ·) (utf7Items_fuel ?_ ?_) <;> simp
  | shiftJis roman => exact hhead _ (shiftJisHead_of_isPlainAscii hc bytes roman)
  | windows31J => exact hhead _ (pairHead_of_isPlainAscii hc bytes _ _)
  | eucJp => exact hhead _ (eucJpHead_of_isPlainAscii hc bytes)
  | iso2022Jp => exact iso2022Items_of_isPlainAscii hc bytes bytes.length
  | gb2312 => exact hhead _ (pairHead_of_isPlainAscii hc bytes _ _)
  | gbk => exact hhead _ (pairHead_of_isPlainAscii hc bytes _ _)
  | gb18030 => exact hhead _ (gb18030Head_of_isPlainAscii hc bytes)
  | big5 => exact hhead _ (pairHead_of_isPlainAscii hc bytes _ _)
  | codePage950 => exact hhead _ (pairHead_of_isPlainAscii hc bytes _ _)
  | eucKr => exact hhead _ (eucKrHead_of_isPlainAscii hc bytes)
  | codePage949 => exact hhead _ (pairHead_of_isPlainAscii hc bytes _ _)
  | utf8Marked | utf16 | utf32 | escapes | hz => cases h

end

/-- The bytes of ASCII characters are their numbers. -/
theorem utf8Bytes_of_isPlainAscii {cs : List Char} (hcs : cs.all isPlainAscii = true) :
    utf8Bytes (String.ofList cs) = cs.map fun c => UInt8.ofNat c.toNat := by
  rw [utf8Bytes_eq_flatMap, String.toList_ofList]
  induction cs with
  | nil => rfl
  | cons c cs ih =>
    obtain ⟨hc, hcs⟩ := Bool.and_eq_true_iff.mp hcs
    rw [List.flatMap_cons, utf8EncodeChar_of_isPlainAscii hc, ih hcs]
    rfl

/-- Characters of ASCII are read as they are, and what stands behind them as if it stood alone. -/
theorem decodeStrict_of_keepsAscii {charset : Charset} (h : charset.keepsAscii = true)
    {cs : List Char} (hcs : cs.all isPlainAscii = true) (bytes : List UInt8) :
    charset.decodeStrict (utf8Bytes (String.ofList cs) ++ bytes)
      = (cs ++ (charset.decodeStrict bytes).1, (charset.decodeStrict bytes).2) := by
  refine Charset.decodeStrict_of_items ?_
  rw [utf8Bytes_of_isPlainAscii hcs]
  induction cs with
  | nil => rfl
  | cons c cs ih =>
    obtain ⟨hc, hcs⟩ := Bool.and_eq_true_iff.mp hcs
    rw [List.map_cons, List.cons_append, items_of_keepsAscii hc _ h, ih hcs]
    rfl

/-! ### Wide charsets -/

/-- A unit that is no half of a character is one. -/
theorem utf16Items_whole {u : Nat} (hu : u < 0xD800) (units : List (Option Nat)) :
    utf16Items none (some u :: units) = some (Char.ofNat u) :: utf16Items none units := by
  have hlow : ¬ 0xDC00 ≤ u := by omega
  have hhigh : ¬ 0xD800 ≤ u := by omega
  simp [utf16Items, hlow, hhigh]

/-- The character of a valid number has that number. -/
theorem toNat_ofNat_of_isValidChar {n : Nat} (h : n.isValidChar) : (Char.ofNat n).toNat = n := by
  rw [Char.ofNat, dif_pos h]
  rfl

section

variable {a b : UInt8} (ha : 0 < a.toNat ∧ a.toNat < 0x80) (hb : 0 < b.toNat ∧ b.toNat < 0x80)
  (bytes : List UInt8)
include ha

/-- Two bytes of ASCII are no mark of an order, so it is known which one bytes are in. -/
theorem exists_order_of_isWide {charset : Charset} (h : charset.isWide = true) : ∃ order,
    charset.items (a :: b :: bytes) = utf16Items none (units16 order (a :: b :: bytes)) ∨
      charset.items (a :: b :: bytes) = utf32Items order (a :: b :: bytes) := by
  have hne : ∀ n : UInt8, 0x80 ≤ n.toNat ∨ n.toNat = 0 → a ≠ n := by
    rintro n hn rfl
    omega
  -- A byte order mark begins with a byte that is zero or not of ASCII, so none is read here.
  cases charset with
  | utf16 order? =>
    cases order? with
    | some order => exact ⟨order, .inl rfl⟩
    | none =>
      refine ⟨.little, .inl ?_⟩
      rw [Charset.items] <;> exact fun _ h => hne _ (by decide) (List.cons.inj h).1
  | utf32 order? =>
    cases order? with
    | some order => exact ⟨order, .inr rfl⟩
    | none =>
      refine ⟨.little, .inr ?_⟩
      rw [Charset.items] <;> exact fun _ h => hne _ (by decide) (List.cons.inj h).1
  | _ => cases h

include hb

/-- The upper byte of a unit that two bytes of ASCII make is not zero. -/
theorem utf16Items_of_ascii (order : ByteOrder) : ∃ item items,
    utf16Items none (units16 order (a :: b :: bytes)) = item :: items ∧
      ∀ c, item = some c → 0x100 ≤ c.toNat := by
  have hunit : ∀ u, u < 0xD800 → 0x100 ≤ u → ∀ units, ∃ item items,
      utf16Items none (some u :: units) = item :: items ∧ ∀ c, item = some c → 0x100 ≤ c.toNat := by
    intro u hhigh hlow units
    refine ⟨_, _, utf16Items_whole hhigh units, fun c hc => ?_⟩
    rwa [← Option.some.inj hc, toNat_ofNat_of_isValidChar (.inl hhigh)]
  cases order with
  | little => exact hunit _ (by omega) (by omega) _
  | big => exact hunit _ (by omega) (by omega) _

/-- Four bytes make one character at most. -/
theorem utf32Items_of_ascii (order : ByteOrder) : ∃ item items,
    utf32Items order (a :: b :: bytes) = item :: items ∧ ∀ c, item = some c → 0x100 ≤ c.toNat := by
  rcases bytes with _ | ⟨c, _ | ⟨d, bytes⟩⟩
  · exact ⟨none, [], rfl, fun _ h => by cases h⟩
  · exact ⟨none, [], rfl, fun _ h => by cases h⟩
  · cases order with
    | little =>
      simp only [utf32Items]
      refine ⟨_, _, rfl, fun char hchar => ?_⟩
      obtain ⟨hvalid, hchar⟩ := Option.ite_none_right_eq_some.mp hchar
      simp only [Bool.or_eq_true, Bool.and_eq_true, decide_eq_true_eq] at hvalid
      rw [← Option.some.inj hchar, toNat_ofNat_of_isValidChar hvalid]
      omega
    | big =>
      -- The first byte alone makes it more than there are characters.
      simp only [utf32Items]
      refine ⟨_, _, rfl, fun char hchar => ?_⟩
      obtain ⟨hvalid, -⟩ := Option.ite_none_right_eq_some.mp hchar
      simp only [Bool.or_eq_true, Bool.and_eq_true, decide_eq_true_eq] at hvalid
      omega

/-- What two bytes of ASCII begin in a wide charset is no character of ASCII, if it is one at
all. -/
theorem items_of_isWide {charset : Charset} (h : charset.isWide = true) :
    ∃ item items, charset.items (a :: b :: bytes) = item :: items ∧
      ∀ c, item = some c → 0x100 ≤ c.toNat := by
  obtain ⟨order, hitems | hitems⟩ := exists_order_of_isWide ha (b := b) bytes h
  · rw [hitems]
    exact utf16Items_of_ascii ha hb bytes order
  · rw [hitems]
    exact utf32Items_of_ascii ha hb bytes order

end

/-- So if all the bytes are something, they do not begin as they do in ASCII. -/
theorem decodeStrict_of_isWide {charset : Charset} (h : charset.isWide = true) {a b : UInt8}
    (ha : 0 < a.toNat ∧ a.toNat < 0x80) (hb : 0 < b.toNat ∧ b.toNat < 0x80) (bytes : List UInt8) :
    (charset.decodeStrict (a :: b :: bytes)).2 = false ∨
      ∃ c cs, charset.decodeStrict (a :: b :: bytes) = (c :: cs, true) ∧ 0x100 ≤ c.toNat := by
  obtain ⟨item, items, hitems, hitem⟩ := items_of_isWide ha hb bytes h
  unfold Charset.decodeStrict
  rw [hitems]
  cases item with
  | none => exact .inl rfl
  | some c =>
    cases hall : items.all Option.isSome with
    | false => exact .inl hall
    | true => exact .inr ⟨c, _, Prod.ext rfl hall, hitem c rfl⟩

end AttrTemplates.Text
