import AttrTemplates.Proofs.Template.Blind
import AttrTemplates.Proofs.Xml.Declared
import AttrTemplates.Proofs.Xml.Reader

/-!
# `AttrTemplates.Proofs.Template.Declared`: templates of texts that declare an encoding

Text has its characters already, and it would be for nothing that a declaration in front of it names
an encoding. But it is read as bytes all the same, in the encoding that it names, and these are the
bytes of UTF-8. `Template.process_declared` says for all declarations, bodies and data what comes of
it: the template comes to the same as one of the text that the body is taken for. That text is the
body itself in UTF-8, and if there is nothing but ASCII in it (`Preamble.Keeps`). It is another one in
most other cases (`Template.process_latinBody`), or there is none.

`SameOutcome` leaves lines and places aside, and the version, which a declaration gives.
-/

set_option autoImplicit false

namespace AttrTemplates

open Xml
open Run (SameResult)

/-! ### Sources that are text -/

/-- There are first halves in a text if there are halves. -/
theorem firstHalves?_isSome (s : String) : (Text.firstHalves? s).isSome = hasHalves s := by
  refine Bool.eq_iff_iff.mpr ?_
  rw [← Option.ne_none_iff_isSome, ne_eq, firstHalves?_eq_none_iff, hasHalves, List.any_eq_true]
  simp only [Option.isNone_iff_eq_none, ← Option.ne_none_iff_isSome, not_forall, exists_prop, ne_eq]

/-- A text without halves may be a source. -/
theorem checkSource_text {s : String} (h : hasHalves s = false) :
    checkSource (.text s) = .ok () := by
  rw [← firstHalves?_isSome, Option.isSome_eq_false_iff, Option.isNone_iff_eq_none] at h
  unfold checkSource
  dsimp only
  rw [h]

namespace Template

/-- The template of a text. -/
def ofText (s : String) : Template := .ofSource (some (.text s))

/-- A template of such a text is parsed from its bytes if it declares a charset, and from its
characters otherwise. -/
theorem parse_ofText {s : String} (h : hasHalves s = false) : (ofText s).parse
    = ((Source.text s).declared.read .namespaced).mapError fun position =>
        .malformedSource position.line position.column := by
  unfold ofText ofSource parse
  dsimp only
  rw [checkSource_text h]
  cases (Source.text s).declared.read .namespaced with
  | ok d => rfl
  | error position => rfl

/-- A source that cannot be read leads to nothing else. -/
theorem process_of_parse_error {t : Template} {f : Failure} (h : t.parse = .error f) (data : Value) :
    t.process data = (.error f, []) := by
  unfold process
  rw [h]
  rfl

/-- Texts that are read as the same document come to the same. -/
theorem process_ofText_same {s t : String} (hs : hasHalves s = false) (ht : hasHalves t = false)
    (h : SameDocument ((Source.text s).declared.read .namespaced)
      ((Source.text t).declared.read .namespaced)) (data : Value) :
    SameOutcome ((ofText s).process data) ((ofText t).process data) := by
  have hlanguages : ∀ l ∈ [Language.standard], l.Blind := by
    intro l hl
    rw [List.mem_singleton.mp hl]
    exact Language.standard_blind
  have hparse : SameResult Document.SameTree (ofText s).parse (ofText t).parse := by
    rw [parse_ofText hs, parse_ofText ht]
    generalize (Source.text s).declared.read .namespaced = x at h
    generalize (Source.text t).declared.read .namespaced = y at h
    cases h with
    | read hdocument => exact .succeeds hdocument
    | unread => exact .fails rfl
  exact process_same hlanguages hparse data

/-! ### Declarations in front -/

/-- What a text comes to that begins with a declaration. If there are halves of characters in it, or if
its body is nothing in the encoding declared, it fails. Otherwise it comes to the same as what its body
is taken for, behind the declaration without its encoding. If this does not say that the document
stands alone it can be left out. -/
theorem process_declared (p : Preamble) (body : String) (data : Value) :
    (hasHalves body = true → ∃ code first last,
      (ofText (p.before body)).process data = (.error (.halvesInText code first last), [])) ∧
    (hasHalves body = false → p.reread body = none → ∃ line column,
      (ofText (p.before body)).process data = (.error (.malformedSource line column), [])) ∧
    (∀ cs, hasHalves body = false → p.reread body = some cs → hasHalves (.ofList cs) = false →
      SameOutcome ((ofText (p.before body)).process data)
        ((ofText (p.withoutEncoding.before (.ofList cs))).process data)) ∧
    (∀ cs, hasHalves body = false → p.reread body = some cs → p.isStandalone = false →
      IsOrdinary (.ofList cs) → SameOutcome ((ofText (p.before body)).process data)
        ((ofText (.ofList cs)).process data)) ∧
    (p.Keeps body → p.reread body = some body.toList) := by
  have hbefore : ∀ {p : Preamble} {s : String}, hasHalves s = false → hasHalves (p.before s) = false :=
    fun h => by rwa [Preamble.hasHalves_before]
  -- The five parts: halves of pairs, bytes that are nothing in the charset, and a body that is read
  -- with its declaration, without it, or as it is.
  refine ⟨fun hhalves => ?_, fun hhalves hnone => ?_, fun cs hhalves hsome hwhole => ?_,
    fun cs hhalves hsome halone hordinary => ?_, p.reread_of_keeps body⟩
  · have hfirst : (Text.firstHalves? (p.before body)).isSome = true := by
      rw [firstHalves?_isSome, Preamble.hasHalves_before, hhalves]
    obtain ⟨⟨code, first, last⟩, hfirst⟩ := Option.isSome_iff_exists.mp hfirst
    have hparse : (ofText (p.before body)).parse = .error (.halvesInText code first last) := by
      unfold ofText ofSource parse checkSource
      dsimp only
      rw [hfirst, p.declaresItself_before body]
      rfl
    exact ⟨code, first, last, process_of_parse_error hparse data⟩
  · obtain ⟨position, hread⟩ := p.read_declared_none body hnone .namespaced
    have hparse : (ofText (p.before body)).parse
        = .error (.malformedSource position.line position.column) := by
      rw [parse_ofText (hbefore hhalves), hread]
      rfl
    exact ⟨position.line, position.column, process_of_parse_error hparse data⟩
  · exact process_ofText_same (hbefore hhalves) (hbefore hwhole)
      (p.read_declared_some body hsome .namespaced) data
  · exact process_ofText_same (hbefore hhalves) hordinary.noHalves
      (p.read_bare body hsome halone hordinary .namespaced) data

/-- The declaration `<?xml version="1.0" encoding="iso-8859-1"?>`. -/
def latinPreamble : Preamble where
  gap := ⟨[' '], by decide, rfl⟩
  sign := ⟨[], [], '"', rfl, rfl, .inl rfl⟩
  digits := ['0']
  areDigits := rfl
  encoding := some {
    gap := ⟨[' '], by decide, rfl⟩
    sign := ⟨[], [], '"', rfl, rfl, .inl rfl⟩
    first := 'i'
    more := "so-8859-1".toList
    isAlpha_first := rfl
    areEncodingChars_more := by decide }
  standalone := none
  trail := []
  areBlanks_trail := rfl

/-- The two bytes of a letter are two letters. -/
theorem process_latinBody :
    hasHalves "<r>é</r>" = false ∧
    latinPreamble.reread "<r>é</r>" = some "<r>Ã©</r>".toList ∧
    SameOutcome ((ofText (latinPreamble.before "<r>é</r>")).process .undefined)
      ((ofText "<r>Ã©</r>").process .undefined) := by
  have hbody : hasHalves "<r>é</r>" = false := by decide +kernel
  have hreread : latinPreamble.reread "<r>é</r>" = some "<r>Ã©</r>".toList := by decide +kernel
  have hordinary : IsOrdinary (.ofList "<r>Ã©</r>".toList) :=
    ⟨by decide +kernel, by decide +kernel, by decide +kernel⟩
  obtain ⟨-, -, -, hbare, -⟩ := process_declared latinPreamble "<r>é</r>" .undefined
  have hsame := hbare _ hbody hreread rfl hordinary
  rw [String.ofList_toList] at hsame
  exact ⟨hbody, hreread, hsame⟩

/-- The text at the beginning of the root. -/
def rootText? (d : Document) : Option String :=
  d.root.element?.bind fun e => leadingText e.children

/-- Documents that are the same but for lines have the same text in their root. -/
theorem rootText?_same {x y : Except Failure Document} (h : SameResult Document.SameTree x y) :
    x.toOption.bind rootText? = y.toOption.bind rootText? := by
  have helement : ∀ n : Node, (n.element?.bind fun e => leadingText e.children)
      = n.unplaced.element?.bind fun e => leadingText e.children := by
    intro n
    cases n with
    | element tag children => exact (leadingText_unplacedList children).symm
    | comment | instruction | reference | text => rfl
  cases h with
  | fails => rfl
  | @succeeds d e hsame =>
    show rootText? d = rootText? e
    unfold rootText?
    rw [helement, hsame.root, ← helement]

/-- So the letter does not come to what it comes to alone. -/
theorem latinBody_altered :
    ¬ SameResult Document.SameTree
      ((ofText "<?xml version=\"1.0\" encoding=\"iso-8859-1\"?><r>é</r>").process .undefined).1
      ((ofText "<r>é</r>").process .undefined).1 := by
  have hdeclared : ((ofText "<?xml version=\"1.0\" encoding=\"iso-8859-1\"?><r>é</r>").process
      .undefined).1.toOption.bind rootText? = some "Ã©" := by decide +kernel
  have hbare : ((ofText "<r>é</r>").process .undefined).1.toOption.bind rootText? = some "é" := by
    decide +kernel
  intro hsame
  have htext := rootText?_same hsame
  rw [hdeclared, hbare] at htext
  exact absurd htext (by decide)

end Template

end AttrTemplates
