import AttrTemplates.Proofs.Xml.LevelDocument
import AttrTemplates.Proofs.Xml.Preamble

/-!
# `AttrTemplates.Proofs.Xml.Declared`: texts that declare an encoding

Text has its characters already, but a text that begins with a declaration is turned into bytes first,
and these are read in the encoding that it declares. `Preamble.read_declared_some` says what comes of that:
the document is the one that the same declaration has without its encoding, in front of what the
bytes of the body are in that encoding. If it is left out altogether nothing changes, unless it says
that the document stands alone or the body begins in a way that is special at the beginning of a
text (`Preamble.read_bare`). The body stays as it is if the encoding is UTF-8, or if there are
characters of ASCII only in it (`Preamble.reread_of_keeps`).
-/

set_option autoImplicit false

namespace AttrTemplates.Xml

open Text (Charset)

/-- Whether there are halves of characters in a text. -/
def hasHalves (s : String) : Bool := s.toList.any fun c => (Text.half? c).isSome

/-- A text that is read alike at the beginning of a source and behind a declaration. -/
structure IsOrdinary (s : String) : Prop where
  noHalves : hasHalves s = false
  noMark : s.toList.head? ≠ some '\uFEFF'
  noDeclaration : Read.beginsDeclaration s.toList = false

/-! ### Texts without declaration -/

/-- A byte is what it stands for where one byte is one character. -/
theorem ofNat_toNat_ofNat_toNat (b : UInt8) : UInt8.ofNat (Char.ofNat b.toNat).toNat = b := by
  have hvalid : b.toNat.isValidChar := .inl (by have := b.toNat_lt; omega)
  rw [Text.toNat_ofNat_of_isValidChar hvalid, UInt8.ofNat_toNat]

/-- Bytes that look like characters of ASCII are those characters in UTF-8. -/
theorem toList_of_map_utf8Bytes {s : String} {cs ds : List Char}
    (hcs : cs.all Text.isPlainAscii = true)
    (h : (Text.utf8Bytes s).map (fun b => Char.ofNat b.toNat) = cs ++ ds) :
    ∃ ds', s.toList = cs ++ ds' := by
  obtain ⟨first, more, hbytes, hfirst, -⟩ := List.map_eq_append_iff.mp h
  have hsame : first = Text.utf8Bytes (String.ofList cs) := by
    rw [Text.utf8Bytes_of_isPlainAscii hcs, ← hfirst, List.map_map]
    exact ((List.map_congr_left fun b _ => ofNat_toNat_ofNat_toNat b).trans (List.map_id first)).symm
  have hdecoded := Text.decodeStrict_of_keepsAscii (show Charset.utf8.keepsAscii = true from rfl) hcs more
  rw [← hsame, ← hbytes, Text.decodeStrict_utf8Bytes] at hdecoded
  exact ⟨_, congrArg Prod.fst hdecoded⟩

/-- A text that does not begin with a declaration has bytes that do not. -/
theorem beginsDeclaration_map_utf8Bytes {s : String}
    (h : Read.beginsDeclaration s.toList = false) :
    Read.beginsDeclaration ((Text.utf8Bytes s).map fun b => Char.ofNat b.toNat) = false := by
  refine Bool.eq_false_iff.mpr fun hbegins => ?_
  obtain ⟨hmark, hblank⟩ := Bool.and_eq_true_iff.mp hbegins
  obtain ⟨ds, hds⟩ := List.isPrefixOf_iff_prefix.mp hmark
  have hdrop : ("<?xml".toList ++ ds).drop 5 = ds := List.drop_left' rfl
  rw [← hds, hdrop] at hblank
  obtain ⟨c, hc, hmarkup⟩ := (Option.any_eq_true _ _).mp hblank
  obtain ⟨es, rfl⟩ := List.head?_eq_some_iff.mp hc
  -- The bytes begin with ASCII, and a byte of ASCII is the character that it stands for. So the
  -- text would begin with a declaration itself.
  have hplain : ("<?xml".toList ++ [c]).all Text.isPlainAscii = true := by
    rw [List.all_append, List.all_cons, Preamble.isPlainAscii_of_isMarkupBlank hmarkup]
    decide
  have hchars : (Text.utf8Bytes s).map (fun b => Char.ofNat b.toNat)
      = "<?xml".toList ++ [c] ++ es := by
    rw [← hds, List.append_assoc]
    rfl
  obtain ⟨ds', hs⟩ := toList_of_map_utf8Bytes hplain hchars
  rw [hs] at h
  have htrue : Read.beginsDeclaration ("<?xml".toList ++ [c] ++ ds') = true :=
    Bool.and_eq_true_iff.mpr ⟨by rw [List.append_assoc]; exact Read.isPrefixOf_append _ _, hmarkup⟩
  rw [htrue] at h
  cases h

/-- Bytes that do not look like those of another encoding are read in UTF-8. -/
theorem charactersOf_utf8Bytes {s : String} (hmark : s.toList.head? ≠ some '\uFEFF')
    (hnull : ∀ c ∈ s.toList.take 2, c ≠ '\x00')
    (hbegins : Read.beginsDeclaration s.toList = false) :
    charactersOf (Text.utf8Bytes s) = .ok s.toList := by
  have hitems := Text.items_utf8Bytes s
  have hfirst : ∀ c items, s.toList.map some = some c :: items → s.toList.head? = some c := by
    intro c items h
    obtain ⟨d, ds, hds, hd, -⟩ := List.map_eq_cons_iff.mp h
    rw [hds, List.head?_cons, hd]
  have hnot : ∀ items, s.toList.map some ≠ none :: items := by
    intro items h
    obtain ⟨d, ds, -, hd, -⟩ := List.map_eq_cons_iff.mp h
    cases hd
  have hnull₁ : ∀ items, s.toList.map some ≠ some '\x00' :: items := by
    intro items h
    obtain ⟨cs, hcs⟩ := List.head?_eq_some_iff.mp (hfirst _ _ h)
    exact hnull '\x00' (by rw [hcs]; exact List.mem_cons_self) rfl
  have hnull₂ : ∀ c items, s.toList.map some ≠ some c :: some '\x00' :: items := by
    intro c items h
    obtain ⟨d, ds, hds, -, h⟩ := List.map_eq_cons_iff.mp h
    obtain ⟨e, es, rfl, he, -⟩ := List.map_eq_cons_iff.mp h
    refine hnull e ?_ (Option.some.inj he)
    rw [hds]
    exact List.mem_cons_of_mem _ List.mem_cons_self
  rw [← fromUtf8_utf8Bytes s]
  have hdeclared := beginsDeclaration_map_utf8Bytes hbegins
  generalize Text.utf8Bytes s = bytes at hitems hdeclared
  unfold charactersOf
  -- All beginnings but the last are those of a mark, or have a null among their characters.
  split
  · exact absurd (hfirst _ _ hitems.symm) hmark
  · exact absurd hitems.symm (hnot _)
  · exact absurd hitems.symm (hnot _)
  · exact absurd hitems.symm (hnull₂ _ _)
  · exact absurd hitems.symm (hnull₁ _)
  · exact absurd hitems.symm (hnull₂ _ _)
  · exact absurd hitems.symm (hnull₁ _)
  · have hstart : Read.Passes (do if ← Read.declarationNext then Read.prologueStart else pure {})
        (bytes.map fun b => Char.ofNat b.toNat) {} (bytes.map fun b => Char.ofNat b.toNat) := by
      refine Read.passes_declarationNext.bind ?_
      rw [hdeclared]
      exact Read.passes_pure
    obtain ⟨position, hread⟩ := hstart (Cursor.start _) rfl
    dsimp only
    rw [hread]

/-- The first characters of a text that says its encoding are white space or those of a declaration. -/
theorem ne_null_of_declaresItself {s : String} (h : (Source.text s).declaresItself = true) :
    ∀ c ∈ s.toList.take 2, c ≠ '\x00' := by
  rintro c hc rfl
  obtain ⟨more, hmore⟩ := List.isPrefixOf_iff_prefix.mp (show _ = true from h)
  have hsplit := List.takeWhile_append_dropWhile (p := Text.isBlank) (l := s.toList)
  rw [← hsplit, List.take_append] at hc
  -- The two are white space, or they are the first of the declaration, or one of each.
  rcases List.mem_append.mp hc with hblank | hmark
  · have hnull := List.mem_takeWhile_imp ((List.take_sublist _ _).subset hblank)
    cases hnull
  · have hmark : '\x00' ∈ ("<?xml".toList ++ more).take 5 := by
      rw [hmore]
      exact (List.take_prefix_take_left (by omega)).subset hmark
    have htake : ("<?xml".toList ++ more).take 5 = "<?xml".toList := List.take_left' rfl
    rw [htake] at hmark
    revert hmark
    decide

/-- What is read of a text that begins in no special way. -/
theorem Source.read_ordinary {s : String} (h : IsOrdinary s) (d : Dialect) :
    (Source.text s).declared.read d = Read.wholeDocument d s.toList := by
  obtain ⟨hhalves, hmark, hbegins⟩ := h
  unfold Source.declared
  dsimp only
  split
  · rename_i hdeclares
    show (charactersOf _ >>= fun cs => Read.wholeDocument d cs) = _
    rw [charactersOf_utf8Bytes hmark (ne_null_of_declaresItself hdeclares) hbegins]
    rfl
  · unfold Source.read
    dsimp only
    rw [show (s.toList.any fun c => (Text.half? c).isSome) = false from hhalves,
      if_neg Bool.false_ne_true]
    split
    · rename_i hcs
      exact absurd (by rw [hcs]; rfl) hmark
    · rfl

/-! ### Texts with a declaration -/

namespace Preamble

/-- A declaration that names no encoding. -/
def withoutEncoding (p : Preamble) : Preamble := { p with encoding := none }

variable (p : Preamble) (body : String)

/-- A text that begins with a declaration. -/
def before (body : String) : String := String.ofList p.text ++ body

/-- It says its encoding. -/
theorem declaresItself_before : (Source.text (p.before body)).declaresItself = true := by
  obtain ⟨more, hmore⟩ : ∃ more, (p.before body).toList = "<?xml".toList ++ more := by
    unfold before Preamble.text Preamble.head
    rw [String.toList_append, String.toList_ofList]
    simp only [List.append_assoc]
    exact ⟨_, rfl⟩
  unfold Source.declaresItself
  dsimp only
  rw [hmore]
  exact Read.isPrefixOf_append "<?xml" more

/-- A text with a declaration in front is read by its bytes. -/
theorem declared_before :
    (Source.text (p.before body)).declared = .bytes (Text.utf8Bytes (p.before body)) := by
  unfold Source.declared
  dsimp only
  rw [if_pos (p.declaresItself_before body)]

/-- If nothing can be made of the body in the encoding declared, the text cannot be read. -/
theorem read_declared_none (h : p.reread body = none) (d : Dialect) :
    ∃ position, (Source.text (p.before body)).declared.read d = .error position := by
  rw [declared_before]
  exact read_of_reread_none p body h d

/-- Otherwise it is read as if nothing were said of an encoding, with the body that it makes. -/
theorem read_declared_some {cs : List Char} (h : p.reread body = some cs) (d : Dialect) :
    SameDocument ((Source.text (p.before body)).declared.read d)
      ((Source.text (p.withoutEncoding.before (String.ofList cs))).declared.read d) := by
  have hplain : p.withoutEncoding.reread (String.ofList cs) = some cs :=
    congrArg some String.toList_ofList
  rw [declared_before, declared_before]
  unfold before
  rw [read_of_reread_some p body h, read_of_reread_some p.withoutEncoding _ hplain]
  obtain ⟨position, hread⟩ := Read.document_preamble p d cs
  obtain ⟨position', hread'⟩ := Read.document_preamble p.withoutEncoding d cs
  exact Read.wholeDocument_same hread hread' ⟨rfl, rfl⟩

/-- A declaration that only gives a version may be left out. -/
theorem read_bare {cs : List Char} (h : p.reread body = some cs) (hstandalone : p.isStandalone = false)
    (hordinary : IsOrdinary (String.ofList cs)) (d : Dialect) :
    SameDocument ((Source.text (p.before body)).declared.read d)
      ((Source.text (String.ofList cs)).declared.read d) := by
  have hlist : (String.ofList cs).toList = cs := String.toList_ofList
  have hbegins := hordinary.noDeclaration
  rw [declared_before, Source.read_ordinary hordinary]
  rw [hlist] at hbegins ⊢
  unfold before
  rw [read_of_reread_some p body h]
  obtain ⟨position, hread⟩ := Read.document_preamble p d cs
  obtain ⟨position', hread'⟩ := Read.document_of_not_beginsDeclaration d hbegins
  rw [hstandalone] at hread
  exact Read.wholeDocument_same hread hread' ⟨rfl, rfl⟩

/-- A declaration that leaves a body as it is: it names no encoding, or UTF-8, or one that keeps ASCII
where there is nothing else in the body. -/
def Keeps (body : String) : Prop :=
  ∀ e, p.encoding = some e → ∃ charset, Charset.ofDocumentName? e.name = some charset ∧
    (charset = .utf8 ∨ charset.keepsAscii = true ∧ body.toList.all Text.isPlainAscii = true)

/-- A body that its charset keeps is read back as it is. -/
theorem reread_of_keeps (h : p.Keeps body) : p.reread body = some body.toList := by
  -- Both ways of keeping a body come down to the same: it decodes to itself as a whole.
  have hdecoded : ∀ charset : Charset,
      (charset = .utf8 ∨ charset.keepsAscii = true ∧ body.toList.all Text.isPlainAscii = true) →
      charset.keepsAscii = true ∧ charset.decodeStrict (Text.utf8Bytes body) = (body.toList, true) := by
    rintro charset (rfl | ⟨hascii, hbody⟩)
    · exact ⟨rfl, Text.decodeStrict_utf8Bytes body⟩
    · have hplain := Text.decodeStrict_of_keepsAscii hascii hbody []
      rw [String.ofList_toList, List.append_nil, Charset.decodeStrict_nil, List.append_nil] at hplain
      exact ⟨hascii, hplain⟩
  unfold reread
  cases he : p.encoding with
  | none => rfl
  | some e =>
    obtain ⟨charset, hcharset, hkeeps⟩ := h e he
    obtain ⟨hascii, hwhole⟩ := hdecoded charset hkeeps
    dsimp only
    rw [hcharset]
    dsimp only
    rw [if_pos hascii, hwhole]

/-- There are no halves in a declaration. -/
theorem hasHalves_before : hasHalves (p.before body) = hasHalves body := by
  have htext : p.text.all Text.isPlainAscii = true := by
    rw [text, List.all_append, p.all_isPlainAscii_head, p.all_isPlainAscii_tail]
    rfl
  have hnone : (p.text.any fun c => (Text.half? c).isSome) = false := by
    refine List.any_eq_false.mpr fun c hc => ?_
    have hlow := (Text.toNat_ofNat_of_isPlainAscii (List.all_eq_true.mp htext c hc)).2.1.2
    unfold Text.half? Text.halfPlane
    rw [if_neg]
    · exact Bool.false_ne_true
    · simp only [Bool.and_eq_true, decide_eq_true_eq]
      omega
  unfold hasHalves before
  rw [String.toList_append, String.toList_ofList, List.any_append, hnone, Bool.false_or]

end Preamble

end AttrTemplates.Xml
