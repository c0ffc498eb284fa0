import AttrTemplates.Proofs.Text.Decoding
import Mathlib.Data.List.TakeDrop
import Mathlib.Data.List.TakeWhile

/-!
# `AttrTemplates.Proofs.Xml.Preamble`: declarations as they are written

A `Preamble` is the declaration of a document in any spelling that the grammar allows, so what is
proved of preambles is proved of all declarations.

* `Read.Passes` is the judgment that a reader passes over a text that comes next, with a result,
  whatever the place. Its lemmas follow the parts of the declaration.
* `Read.document_preamble`: a document is read from behind its declaration, with the version that
  the declaration gives and its word on whether the document stands alone.
* `read_of_reread_some`: a text that begins with a declaration is read as the declaration and then
  what the bytes of the rest are in the charset it declares, which is `Preamble.reread`. If they are
  nothing there it cannot be read (`read_of_reread_none`).
-/

set_option autoImplicit false

namespace AttrTemplates.Xml

open Text (Charset)
open Read (isMarkupBlank)

/-! ### Parts of a declaration -/

/-- Blanks that keep two parts of a declaration apart. -/
structure Gap where
  blanks : List Char
  isNonempty : blanks ≠ []
  areBlanks : blanks.all isMarkupBlank = true

/-- An equals sign with blanks around it, and the kind of quotes that the value behind it is in. -/
structure Assignment where
  before : List Char
  behind : List Char
  quote : Char
  areBlanksBefore : before.all isMarkupBlank = true
  areBlanksBehind : behind.all isMarkupBlank = true
  isQuote : quote = '"' ∨ quote = '\''

/-- An assignment of a value. -/
def Assignment.text (s : Assignment) (value : List Char) : List Char :=
  s.before ++ '=' :: (s.behind ++ s.quote :: (value ++ [s.quote]))

/-- A character of the names of encodings. -/
def isEncodingChar (c : Char) : Bool := c.isAlphanum || c == '.' || c == '_' || c == '-'

/-- The part of a declaration that names an encoding. -/
structure EncodingPart where
  gap : Gap
  sign : Assignment
  first : Char
  more : List Char
  isAlpha_first : first.isAlpha = true
  areEncodingChars_more : more.all isEncodingChar = true

/-- The part of a declaration that says whether a document stands alone. -/
structure StandalonePart where
  gap : Gap
  sign : Assignment
  value : Bool

/-- A declaration as it is written. The versions are those that begin with `1.`. -/
structure Preamble where
  gap : Gap
  sign : Assignment
  digits : List Char
  areDigits : digits.all Char.isDigit = true
  encoding : Option EncodingPart
  standalone : Option StandalonePart
  trail : List Char
  areBlanks_trail : trail.all isMarkupBlank = true

/-- The name of an encoding. -/
def EncodingPart.name (e : EncodingPart) : String := String.ofList (e.first :: e.more)

/-- The part of a declaration that names the encoding, as it is written. -/
def EncodingPart.text (e : EncodingPart) : List Char :=
  e.gap.blanks ++ "encoding".toList ++ e.sign.text (e.first :: e.more)

/-- A yes or no. -/
def StandalonePart.word (s : StandalonePart) : List Char := (if s.value then "yes" else "no").toList

namespace Preamble

/-- The number of the version. -/
def version (p : Preamble) : String := String.ofList ('1' :: '.' :: p.digits)

/-- What the document is said to be. -/
def isStandalone (p : Preamble) : Bool := p.standalone.any StandalonePart.value

/-- A declaration up to the encoding that it names. -/
def head (p : Preamble) : List Char :=
  "<?xml".toList ++ p.gap.blanks ++ "version".toList ++ p.sign.text ('1' :: '.' :: p.digits)
    ++ (p.encoding.map EncodingPart.text).getD []

/-- The blanks behind that. -/
def inner (p : Preamble) : List Char :=
  match p.standalone with
  | some s => s.gap.blanks
  | none => p.trail

/-- A declaration from behind those on. -/
def ending (p : Preamble) : List Char :=
  match p.standalone with
  | some s => "standalone".toList ++ s.sign.text s.word ++ p.trail ++ "?>".toList
  | none => "?>".toList

/-- The whole text of a declaration. -/
def text (p : Preamble) : List Char := p.head ++ (p.inner ++ p.ending)

/-- The version begins with `1.`, which is what the reader asks of it. -/
theorem version_startsWith (p : Preamble) : p.version.startsWith "1." = true := by
  have hversion : p.version.toList = ['1', '.'] ++ p.digits := String.toList_ofList
  have hdot : "1.".toList = ['1', '.'] := rfl
  rw [String.startsWith_string_iff, hversion, hdot]
  exact List.prefix_append _ _

/-- The ending can do without blanks in front of it only if it is the mere end. -/
theorem inner_cases (p : Preamble) :
    (∃ g : Gap, p.inner = g.blanks) ∨ p.inner = [] ∧ p.ending = "?>".toList := by
  unfold inner ending
  cases p.standalone with
  | some s => exact .inl ⟨s.gap, rfl⟩
  | none =>
    by_cases htrail : p.trail = []
    · exact .inr ⟨htrail, rfl⟩
    · exact .inl ⟨⟨p.trail, htrail, p.areBlanks_trail⟩, rfl⟩

/-- No blanks and no encoding come where the ending comes. -/
theorem head?_ending (p : Preamble) (cs : List Char) :
    (p.ending ++ cs).head?.all (!isMarkupBlank ·) = true := by
  unfold ending
  split <;> rfl

/-- Behind the encoding there is none, so the end of a declaration is not taken for one. -/
theorem isPrefixOf_encoding_ending (p : Preamble) (cs : List Char) :
    "encoding".toList.isPrefixOf (p.ending ++ cs) = false := by
  unfold ending
  split <;> rfl

end Preamble

/-! ### Readers that pass over a text -/

namespace Read

section

variable {α β : Type} {cs ds es : List Char} {a : α} {b : β}

/-- With `cs` to come, a reader has the result `a` and leaves `ds` to come. It stays in the same
text, and remembers nothing. -/
def Passes (r : Read α) (cs : List Char) (a : α) (ds : List Char) : Prop :=
  ∀ c : Cursor, c.rest = cs → ∃ p, r c = .ok (a, { c with rest := ds, position := p })

/-- Nothing is passed over by a result that is known beforehand. -/
theorem passes_pure : Passes (pure a) cs a cs := by
  rintro c rfl
  exact ⟨c.position, rfl⟩

/-- Texts that stand behind each other are passed over one after the other. -/
theorem Passes.bind {r : Read α} {f : α → Read β} (hr : Passes r cs a ds)
    (hf : Passes (f a) ds b es) : Passes (r >>= f) cs b es := by
  intro c hc
  obtain ⟨p, hp⟩ := hr c hc
  obtain ⟨q, hq⟩ := hf { c with rest := ds, position := p } rfl
  refine ⟨q, ?_⟩
  show (r c >>= fun x => f x.1 x.2) = _
  rw [hp]
  exact hq

/-- A check that does not stop. -/
theorem passes_ite_stop {c : Prop} [Decidable c] {f : Unit → Read α} (hc : ¬ c)
    (hf : Passes (f ()) cs a ds) : Passes (if c then (do let x ← stop; f x) else f ()) cs a ds := by
  rwa [if_neg hc]

/-- With `cs` to come, a reader stops. -/
def Stops (r : Read α) (cs : List Char) : Prop := ∀ c : Cursor, c.rest = cs → ∃ p, r c = .error p

/-- To stop is to stop at any text. -/
theorem stops_stop : Stops (stop : Read α) cs := fun _ _ => ⟨_, rfl⟩

/-- A sequence whose first part stops has no second part. -/
theorem Stops.bind {r : Read α} {f : α → Read β} (hr : Stops r cs) : Stops (r >>= f) cs := by
  intro c hc
  obtain ⟨p, hp⟩ := hr c hc
  refine ⟨p, ?_⟩
  show (r c >>= fun x => f x.1 x.2) = _
  rw [hp]
  rfl

/-- A sequence stops where its second part does. -/
theorem Passes.bind_stops {r : Read α} {f : α → Read β} (hr : Passes r cs a ds)
    (hf : Stops (f a) ds) : Stops (r >>= f) cs := by
  intro c hc
  obtain ⟨p, hp⟩ := hr c hc
  obtain ⟨q, hq⟩ := hf { c with rest := ds, position := p } rfl
  refine ⟨q, ?_⟩
  show (r c >>= fun x => f x.1 x.2) = _
  rw [hp]
  exact hq

/-- A look at the next character passes over nothing. -/
theorem passes_peek : Passes peek cs cs.head? cs := by
  rintro c rfl
  exact ⟨c.position, rfl⟩

/-- A look at the whole text passes over nothing. -/
theorem passes_rest : Passes rest cs cs cs := by
  rintro c rfl
  exact ⟨c.position, rfl⟩

/-- A look for a string passes over nothing. -/
theorem passes_looksAt (s : String) : Passes (looksAt s) cs (s.toList.isPrefixOf cs) cs := by
  rintro c rfl
  exact ⟨c.position, rfl⟩

/-- Characters are passed over by their number. -/
theorem passes_skip (n : Nat) : Passes (skip n) cs () (cs.drop n) := by
  rintro c rfl
  exact ⟨_, rfl⟩

/-- A string stands in front of whatever comes behind it. -/
theorem isPrefixOf_append (s : String) (cs : List Char) :
    s.toList.isPrefixOf (s.toList ++ cs) = true :=
  List.isPrefixOf_iff_prefix.mpr (List.prefix_append _ _)

/-- A text that is known to come next is passed over. -/
theorem passes_skip_text (s : String) {n : Nat} (hn : s.length = n) :
    Passes (skip n) (s.toList ++ cs) () cs := by
  have hskip : Passes (skip n) (s.toList ++ cs) () ((s.toList ++ cs).drop n) := passes_skip n
  rwa [← hn, ← String.length_toList, List.drop_left, String.length_toList, hn] at hskip

/-- A string that comes next is passed over where it is expected. -/
theorem passes_expect (s : String) : Passes (expect s) (s.toList ++ cs) () cs := by
  unfold expect
  refine (passes_looksAt s).bind ?_
  rw [if_pos (isPrefixOf_append s cs)]
  exact passes_skip_text s rfl

/-- The longest run of characters ends where a character is of another kind. -/
theorem passes_takeWhile {p : Char → Bool} {taken : List Char} (htaken : taken.all p = true)
    (hcs : cs.head?.all (!p ·) = true) : Passes (takeWhile p) (taken ++ cs) taken cs := by
  intro c hc
  have hspan : c.rest.span p = (taken, cs) := by
    have hall := List.all_eq_true.mp htaken
    rw [hc, List.span_eq_takeWhile_dropWhile, List.takeWhile_append_of_pos hall,
      List.dropWhile_append_of_pos hall]
    cases cs with
    | nil => rw [List.takeWhile_nil, List.dropWhile_nil, List.append_nil]
    | cons d cs =>
      have hd : ¬ p d = true := by simpa using hcs
      rw [List.takeWhile_cons_of_neg hd, List.dropWhile_cons_of_neg hd, List.append_nil]
  refine ⟨c.position.afterAll taken, ?_⟩
  unfold takeWhile
  rw [hspan]

/-- Blanks are passed over up to the first character that is none. -/
theorem passes_blanks {bs : List Char} (hbs : bs.all isMarkupBlank = true)
    (hcs : cs.head?.all (!isMarkupBlank ·) = true) : Passes blanks (bs ++ cs) (!bs.isEmpty) cs :=
  (passes_takeWhile hbs hcs).bind passes_pure

/-- Where blanks must be, a gap is passed over. -/
theorem passes_spaced (g : Gap) (hcs : cs.head?.all (!isMarkupBlank ·) = true) :
    Passes spaced (g.blanks ++ cs) () cs := by
  unfold spaced
  refine (passes_blanks g.areBlanks hcs).bind ?_
  have hsome : g.blanks.isEmpty = false := by
    cases h : g.blanks with
    | nil => exact absurd h g.isNonempty
    | cons => rfl
  rw [hsome]
  exact passes_pure

end

/-! ### Declarations -/

section

variable {cs : List Char}

/-- A quotation mark is no blank, so blanks in front of it end there. -/
theorem head?_quote (s : Assignment) : (s.quote :: cs).head?.all (!isMarkupBlank ·) = true := by
  rcases s.isQuote with h | h <;> rw [h] <;> rfl

/-- A value is read between its quotes. -/
theorem passes_declaredValue {α : Type} {value : Read α} {a : α} (s : Assignment) {v : List Char}
    (h : Passes value (v ++ s.quote :: cs) a (s.quote :: cs)) :
    Passes (declaredValue value) (s.text v ++ cs) a cs := by
  have htext : s.text v ++ cs
      = s.before ++ ("=".toList ++ (s.behind ++ s.quote :: (v ++ s.quote :: cs))) := by
    simp [Assignment.text]
  have hquote : ¬ (some s.quote != some '"' && some s.quote != some '\'') = true := by
    rcases s.isQuote with h | h <;> rw [h] <;> decide
  rw [htext]
  unfold declaredValue
  refine (passes_blanks s.areBlanksBefore rfl).bind ((passes_expect "=").bind ?_)
  refine (passes_blanks s.areBlanksBehind (head?_quote s)).bind (passes_peek.bind ?_)
  refine passes_ite_stop hquote ((passes_skip 1).bind (h.bind (passes_peek.bind ?_)))
  exact passes_ite_stop (by simp) ((passes_skip 1).bind passes_pure)

/-- The version is passed over up to its closing quotation mark. -/
theorem passes_versionNumber? (p : Preamble) :
    Passes versionNumber? ('1' :: '.' :: p.digits ++ p.sign.quote :: cs) (some p.version)
      (p.sign.quote :: cs) := by
  have hquote : (p.sign.quote :: cs).head?.all (!Char.isDigit ·) = true := by
    rcases p.sign.isQuote with h | h <;> rw [h] <;> rfl
  unfold versionNumber?
  refine passes_rest.bind ?_
  show Passes (if ('1' : Char).isDigit then _ else _) _ _ _
  rw [if_pos (by decide)]
  exact (passes_skip 2).bind ((passes_takeWhile p.areDigits hquote).bind passes_pure)

/-- The name of the encoding is passed over up to its closing quotation mark. -/
theorem passes_encodingName (e : EncodingPart) :
    Passes encodingName (e.first :: e.more ++ e.sign.quote :: cs) e.name (e.sign.quote :: cs) := by
  have hname : (e.first :: e.more).all isEncodingChar = true := by
    have hfirst : isEncodingChar e.first = true := by
      unfold isEncodingChar Char.isAlphanum
      rw [e.isAlpha_first]
      rfl
    rw [List.all_cons, hfirst, e.areEncodingChars_more]
    rfl
  have hquote : (e.sign.quote :: cs).head?.all (!isEncodingChar ·) = true := by
    rcases e.sign.isQuote with h | h <;> rw [h] <;> rfl
  unfold encodingName
  refine passes_peek.bind (passes_ite_stop ?_ ?_)
  · simp [e.isAlpha_first]
  · exact (passes_takeWhile hname hquote).bind passes_pure

/-- The word for whether the document stands alone is passed over up to its closing quotation mark.
-/
theorem passes_yesOrNo (s : StandalonePart) :
    Passes yesOrNo (s.word ++ s.sign.quote :: cs) s.value (s.sign.quote :: cs) := by
  unfold yesOrNo StandalonePart.word
  refine (passes_looksAt "yes").bind ?_
  cases s.value with
  | true => exact (passes_skip 3).bind passes_pure
  | false => exact (passes_expect "no").bind passes_pure

/-- Blanks in front are no end of a declaration. -/
theorem isPrefixOf_end_gap (g : Gap) (cs : List Char) :
    "?>".toList.isPrefixOf (g.blanks ++ cs) = false := by
  have hblank := g.areBlanks
  cases h : g.blanks with
  | nil => exact absurd h g.isNonempty
  | cons c bs =>
    rw [h] at hblank
    have hc : ('?' == c) = false := by
      refine beq_false_of_ne ?_
      rintro rfl
      cases hblank
    show (('?' == c) && _) = false
    rw [hc]
    rfl

/-- The readers of the version and of the name of the encoding. -/
theorem passes_prologueStart {cs ds : List Char} (p : Preamble) {x : Prologue}
    (h : Passes (do
      if ← looksAt "?>" then pure { version := p.version }
      else
        spaced
        if ← looksAt "encoding" then
          skip 8
          pure { version := p.version, encoding := some (← declaredValue encodingName) }
        else pure { version := p.version }) cs x ds) :
    Passes prologueStart ("<?xml".toList ++ (p.gap.blanks ++ ("version".toList
      ++ (p.sign.text ('1' :: '.' :: p.digits) ++ cs)))) x ds := by
  have hmark : ∀ ds, Passes (skip 5) ("<?xml".toList ++ ds) () ds :=
    fun _ => passes_skip_text "<?xml" rfl
  unfold prologueStart
  refine (hmark _).bind ((passes_spaced p.gap ?_).bind ((passes_expect "version").bind ?_))
  · rfl
  refine (passes_declaredValue p.sign (passes_versionNumber? p)).bind (passes_ite_stop ?_ h)
  rw [p.version_startsWith]
  decide

/-- A declaration that names an encoding is read up to the end of that. -/
theorem passes_prologueStart_encoding (p : Preamble) {e : EncodingPart} (he : p.encoding = some e) :
    Passes prologueStart (p.head ++ cs) { version := p.version, encoding := some e.name } cs := by
  have htext : p.head ++ cs = "<?xml".toList ++ (p.gap.blanks ++ ("version".toList
      ++ (p.sign.text ('1' :: '.' :: p.digits) ++ (e.gap.blanks ++ ("encoding".toList
        ++ (e.sign.text (e.first :: e.more) ++ cs)))))) := by
    unfold Preamble.head
    rw [he, Option.map_some, Option.getD_some, EncodingPart.text]
    simp only [List.append_assoc]
  have hword : ∀ ds, Passes (skip 8) ("encoding".toList ++ ds) () ds :=
    fun _ => passes_skip_text "encoding" rfl
  rw [htext]
  refine passes_prologueStart p ((passes_looksAt "?>").bind ?_)
  rw [isPrefixOf_end_gap]
  refine (passes_spaced e.gap rfl).bind ((passes_looksAt "encoding").bind ?_)
  rw [isPrefixOf_append]
  exact (hword _).bind ((passes_declaredValue e.sign (passes_encodingName e)).bind passes_pure)

/-- A declaration that names no encoding is read up to its ending. -/
theorem passes_prologueStart_plain (p : Preamble) (he : p.encoding = none) :
    Passes prologueStart (p.head ++ (p.inner ++ (p.ending ++ cs))) { version := p.version }
      (p.ending ++ cs) := by
  have htext : p.head ++ (p.inner ++ (p.ending ++ cs)) = "<?xml".toList ++ (p.gap.blanks
      ++ ("version".toList ++ (p.sign.text ('1' :: '.' :: p.digits)
        ++ (p.inner ++ (p.ending ++ cs))))) := by
    unfold Preamble.head
    rw [he, Option.map_none, Option.getD_none, List.append_nil]
    simp only [List.append_assoc]
  rw [htext]
  refine passes_prologueStart p ((passes_looksAt "?>").bind ?_)
  obtain ⟨g, hinner⟩ | ⟨hinner, hending⟩ := p.inner_cases
  · rw [hinner, isPrefixOf_end_gap]
    refine (passes_spaced g (p.head?_ending cs)).bind ((passes_looksAt "encoding").bind ?_)
    rw [p.isPrefixOf_encoding_ending]
    exact passes_pure
  · rw [hinner, hending, List.nil_append, isPrefixOf_append]
    exact passes_pure

/-- What stands behind the encoding, or behind the version if there is none. -/
theorem passes_ending (p : Preamble) (x : Prologue) :
    Passes (do
      let standalone ← (do
        if ← looksAt "standalone" then
          skip 10
          declaredValue yesOrNo
        else pure false)
      let _ ← blanks
      expect "?>"
      pure { x with standalone }) (p.ending ++ cs) { x with standalone := p.isStandalone } cs := by
  -- The part about standing alone may be missing, the end is the same.
  have hend : ∀ (bs : List Char) (standalone : Bool), bs.all isMarkupBlank = true →
      Passes (do
        let _ ← blanks
        expect "?>"
        pure { x with standalone }) (bs ++ ("?>".toList ++ cs)) { x with standalone } cs := by
    intro bs standalone hbs
    exact (passes_blanks hbs rfl).bind ((passes_expect "?>").bind passes_pure)
  unfold Preamble.ending Preamble.isStandalone
  cases p.standalone with
  | some s =>
    have hsaid : Passes (do
        if ← looksAt "standalone" then
          skip 10
          declaredValue yesOrNo
        else pure false) ("standalone".toList ++ (s.sign.text s.word ++ (p.trail ++ ("?>".toList ++ cs))))
        s.value (p.trail ++ ("?>".toList ++ cs)) := by
      refine (passes_looksAt "standalone").bind ?_
      rw [isPrefixOf_append]
      exact (passes_skip_text "standalone" rfl).bind (passes_declaredValue s.sign (passes_yesOrNo s))
    dsimp only
    simp only [List.append_assoc]
    exact hsaid.bind (hend p.trail s.value p.areBlanks_trail)
  | none =>
    have hsaid : Passes (do
        if ← looksAt "standalone" then
          skip 10
          declaredValue yesOrNo
        else pure false) ("?>".toList ++ cs) false ("?>".toList ++ cs) :=
      (passes_looksAt "standalone").bind passes_pure
    exact hsaid.bind (hend [] false rfl)

/-- A declaration is read as a whole. -/
theorem passes_prologue (p : Preamble) :
    Passes prologue (p.text ++ cs) ⟨p.version, p.encoding.map EncodingPart.name, p.isStandalone⟩
      cs := by
  have htext : p.text ++ cs = p.head ++ (p.inner ++ (p.ending ++ cs)) := by
    unfold Preamble.text
    simp only [List.append_assoc]
  rw [htext]
  unfold prologue
  cases he : p.encoding with
  | none =>
    refine (passes_prologueStart_plain p he).bind ((passes_looksAt "?>").bind ?_)
    exact passes_ending p _
  | some e =>
    refine (passes_prologueStart_encoding p he).bind ((passes_looksAt "?>").bind ?_)
    -- Either there is a gap behind the encoding, or `?>` comes at once.
    obtain ⟨g, hinner⟩ | ⟨hinner, hending⟩ := p.inner_cases
    · rw [hinner, isPrefixOf_end_gap]
      exact (passes_spaced g (p.head?_ending cs)).bind (passes_ending p _)
    · rw [hinner, List.nil_append, hending, isPrefixOf_append, ← hending]
      exact passes_ending p _

/-- Whether characters begin like a declaration. -/
def beginsDeclaration (cs : List Char) : Bool :=
  "<?xml".toList.isPrefixOf cs && (cs.drop 5).head?.any isMarkupBlank

/-- Whether a declaration comes next is seen without passing over it. -/
theorem passes_declarationNext : Passes declarationNext cs (beginsDeclaration cs) cs :=
  passes_rest.bind ((passes_looksAt "<?xml").bind passes_pure)

/-- Every preamble begins as a declaration does. -/
theorem beginsDeclaration_head (p : Preamble) (cs : List Char) :
    beginsDeclaration (p.head ++ cs) = true := by
  have hgap : ∀ more : List Char, (p.gap.blanks ++ more).head?.any isMarkupBlank = true := by
    intro more
    have hblank := p.gap.areBlanks
    cases h : p.gap.blanks with
    | nil => exact absurd h p.gap.isNonempty
    | cons c bs =>
      rw [h] at hblank
      exact (Bool.and_eq_true_iff.mp hblank).1
  unfold Preamble.head
  simp only [List.append_assoc]
  exact Bool.and_eq_true_iff.mpr ⟨isPrefixOf_append _ _, hgap _⟩

/-- What is read of a declaration, if there is one, counts for the document behind it. -/
theorem document_of_prologue (d : Dialect) {version : String} {encoding : Option String}
    {standalone : Bool} {ds : List Char}
    (h : Passes (do if ← declarationNext then prologue else pure {}) cs
      ⟨version, encoding, standalone⟩ ds) :
    ∃ position, document d (Cursor.start cs)
      = documentFrom d version standalone { rest := ds, position } := by
  obtain ⟨position, hpassed⟩ := h (Cursor.start cs) rfl
  refine ⟨position, ?_⟩
  show ((do if ← declarationNext then prologue else pure {} : Read Prologue) _ >>= fun x =>
    documentFrom d x.1.version x.1.standalone x.2) = _
  rw [hpassed]
  rfl

/-- A document is read from behind its declaration. -/
theorem document_preamble (p : Preamble) (d : Dialect) (cs : List Char) : ∃ position,
    document d (Cursor.start (p.text ++ cs))
      = documentFrom d p.version p.isStandalone { rest := cs, position } := by
  have hprologue : Passes (do if ← declarationNext then prologue else pure {}) (p.text ++ cs)
      ⟨p.version, p.encoding.map EncodingPart.name, p.isStandalone⟩ cs := by
    refine passes_declarationNext.bind ?_
    rw [Preamble.text, List.append_assoc, beginsDeclaration_head, ← List.append_assoc]
    exact passes_prologue p
  exact document_of_prologue d hprologue

/-- Without declaration it is read from its beginning. -/
theorem document_of_not_beginsDeclaration (d : Dialect) (h : beginsDeclaration cs = false) :
    ∃ position, document d (Cursor.start cs)
      = documentFrom d "1.0" false { rest := cs, position } := by
  have hprologue : Passes (do if ← declarationNext then prologue else pure {}) cs {} cs := by
    refine passes_declarationNext.bind ?_
    rw [h]
    exact passes_pure
  exact document_of_prologue d hprologue

/-- Behind the name of an encoding blanks come, or the end. -/
theorem stops_document (p : Preamble) {e : EncodingPart} (he : p.encoding = some e) (d : Dialect)
    {c : Char} (hc : 0x100 ≤ c.toNat) : Stops (document d) (p.head ++ c :: cs) := by
  -- The character is none of those that may come, as they are all smaller.
  have hne : ∀ sign : Char, sign.toNat < 0x100 → sign ≠ c := by
    rintro sign hsign rfl
    omega
  have hend : "?>".toList.isPrefixOf (c :: cs) = false := by
    show (('?' == c) && _) = false
    rw [beq_false_of_ne (hne '?' (by decide))]
    rfl
  have hblank : isMarkupBlank c = false := by
    unfold isMarkupBlank
    rw [beq_false_of_ne (hne ' ' (by decide)).symm, beq_false_of_ne (hne '\t' (by decide)).symm,
      beq_false_of_ne (hne '\n' (by decide)).symm, beq_false_of_ne (hne '\r' (by decide)).symm]
    rfl
  have hspaced : Stops spaced (c :: cs) := by
    have hblanks : Passes blanks ([] ++ c :: cs) false (c :: cs) :=
      passes_blanks rfl (by simp [hblank])
    exact hblanks.bind_stops stops_stop
  refine Stops.bind (passes_declarationNext.bind_stops ?_)
  rw [beginsDeclaration_head]
  refine (passes_prologueStart_encoding p he).bind_stops ((passes_looksAt "?>").bind_stops ?_)
  rw [hend]
  exact hspaced.bind

end

end Read

/-! ### Characters -/

namespace Preamble

/-- What the text behind a declaration is read as: its bytes in UTF-8 are what they are in the
charset declared. It is nothing if there is no such charset, and none either if some bytes are
nothing in it or not even the end of the declaration is. -/
def reread (p : Preamble) (body : String) : Option (List Char) :=
  match p.encoding with
  | none => some body.toList
  | some e =>
    match Charset.ofDocumentName? e.name with
    | none => none
    | some charset =>
      if charset.keepsAscii then
        match charset.decodeStrict (Text.utf8Bytes body) with
        | (cs, true) => some cs
        | (_, false) => none
      else none

/-- Blanks are plain ASCII characters, so any charset that keeps those reads them alike. -/
theorem isPlainAscii_of_isMarkupBlank {c : Char} (h : isMarkupBlank c = true) :
    Text.isPlainAscii c = true := by
  unfold isMarkupBlank at h
  simp only [Bool.or_eq_true, beq_iff_eq] at h
  rcases h with ((rfl | rfl) | rfl) | rfl <;> rfl

/-- Letters and digits are plain ASCII characters. -/
theorem isPlainAscii_of_isAlphanum {c : Char} (h : c.isAlphanum = true) :
    Text.isPlainAscii c = true := by
  have hne : ∀ d : Char, d.isAlphanum = false → (c != d) = true := by
    intro d hd
    refine bne_iff_ne.mpr ?_
    rintro rfl
    rw [h] at hd
    cases hd
  -- By the ranges of the three kinds of characters, as numbers.
  have hascii : 0 < c.toNat ∧ c.toNat < 0x80 := by
    delta Char.isAlphanum Char.isAlpha Char.isUpper Char.isLower Char.isDigit at h
    simp only [Bool.or_eq_true, Bool.and_eq_true, decide_eq_true_eq, UInt32.le_iff_toNat_le,
      ge_iff_le] at h
    have : c.toNat = c.val.toNat := rfl
    have : 'A'.val.toNat = 65 ∧ 'a'.val.toNat = 97 ∧ '0'.val.toNat = 48 := ⟨rfl, rfl, rfl⟩
    have : 'Z'.val.toNat = 90 ∧ 'z'.val.toNat = 122 ∧ '9'.val.toNat = 57 := ⟨rfl, rfl, rfl⟩
    omega
  unfold Text.isPlainAscii
  rw [hne _ (by decide), hne _ (by decide), hne _ (by decide), hne _ (by decide)]
  simpa using hascii

/-- The characters that names of encodings have are plain ASCII. -/
theorem isPlainAscii_of_isEncodingChar {c : Char} (h : isEncodingChar c = true) :
    Text.isPlainAscii c = true := by
  unfold isEncodingChar at h
  simp only [Bool.or_eq_true, beq_iff_eq] at h
  rcases h with ((h | rfl) | rfl) | rfl
  · exact isPlainAscii_of_isAlphanum h
  all_goals rfl

/-- A text of one kind of characters is plain if characters of that kind are. -/
theorem all_isPlainAscii_of_all {kind : Char → Bool} {cs : List Char} (h : cs.all kind = true)
    (hkind : ∀ {c}, kind c = true → Text.isPlainAscii c = true) : cs.all Text.isPlainAscii = true :=
  List.all_eq_true.mpr fun c hc => hkind (List.all_eq_true.mp h c hc)

/-- Blanks make a plain text. -/
theorem all_isPlainAscii_blanks {bs : List Char} (h : bs.all isMarkupBlank = true) :
    bs.all Text.isPlainAscii = true :=
  all_isPlainAscii_of_all h isPlainAscii_of_isMarkupBlank

/-- An assignment is a plain text if its value is. -/
theorem all_isPlainAscii_assignment (s : Assignment) {value : List Char}
    (h : value.all Text.isPlainAscii = true) : (s.text value).all Text.isPlainAscii = true := by
  have hquote : Text.isPlainAscii s.quote = true := by
    rcases s.isQuote with h | h <;> rw [h] <;> rfl
  have hequals : Text.isPlainAscii '=' = true := rfl
  simp only [Assignment.text, List.all_append, List.all_cons, List.all_nil, hquote, hequals, h,
    all_isPlainAscii_blanks s.areBlanksBefore, all_isPlainAscii_blanks s.areBlanksBehind,
    Bool.and_self]

/-- Every charset that keeps ASCII reads a declaration as it is written. -/
theorem all_isPlainAscii_head (p : Preamble) : p.head.all Text.isPlainAscii = true := by
  have hmark : "<?xml".toList.all Text.isPlainAscii = true := by decide
  have hword : "version".toList.all Text.isPlainAscii = true := by decide
  have hversion : ('1' :: '.' :: p.digits).all Text.isPlainAscii = true := by
    have hdigits := all_isPlainAscii_of_all p.areDigits fun hc =>
      isPlainAscii_of_isAlphanum (Bool.or_eq_true_iff.mpr (.inr hc))
    rw [List.all_cons, List.all_cons, hdigits]
    rfl
  -- Part by part, as a declaration is put together.
  have hencoding : ((p.encoding.map EncodingPart.text).getD []).all Text.isPlainAscii = true := by
    cases p.encoding with
    | none => rfl
    | some e =>
      have hword : "encoding".toList.all Text.isPlainAscii = true := by decide
      have hname : (e.first :: e.more).all Text.isPlainAscii = true := by
        have hfirst := isPlainAscii_of_isAlphanum (Bool.or_eq_true_iff.mpr (.inl e.isAlpha_first))
        rw [List.all_cons, hfirst,
          all_isPlainAscii_of_all e.areEncodingChars_more isPlainAscii_of_isEncodingChar]
        rfl
      rw [Option.map_some, Option.getD_some, EncodingPart.text]
      simp only [List.all_append, hword, all_isPlainAscii_blanks e.gap.areBlanks,
        all_isPlainAscii_assignment e.sign hname, Bool.and_self]
  unfold head
  simp only [List.all_append, hmark, hword, hencoding, all_isPlainAscii_blanks p.gap.areBlanks,
    all_isPlainAscii_assignment p.sign hversion, Bool.and_self]

/-- What stands behind the encoding in a declaration is plain as well. -/
theorem all_isPlainAscii_tail (p : Preamble) : (p.inner ++ p.ending).all Text.isPlainAscii = true := by
  have hend : "?>".toList.all Text.isPlainAscii = true := by decide
  unfold inner ending
  cases p.standalone with
  | none =>
    simp only [List.all_append, hend, all_isPlainAscii_blanks p.areBlanks_trail, Bool.and_self]
  | some s =>
    have hword : "standalone".toList.all Text.isPlainAscii = true := by decide
    have hvalue : s.word.all Text.isPlainAscii = true := by
      unfold StandalonePart.word
      cases s.value <;> decide
    simp only [List.all_append, hend, hword, all_isPlainAscii_blanks s.gap.areBlanks,
      all_isPlainAscii_assignment s.sign hvalue, all_isPlainAscii_blanks p.areBlanks_trail,
      Bool.and_self]

end Preamble

/-! ### Characters of a source -/

/-- The bytes of a text in UTF-8 are read back as the text. -/
theorem fromUtf8_utf8Bytes (s : String) : fromUtf8 (Text.utf8Bytes s) = s.toList := by
  unfold fromUtf8
  rw [Text.decodeStrict_utf8Bytes]

/-- One byte is one character until it is known how bytes are to be read. -/
theorem map_utf8Bytes_of_isPlainAscii {cs : List Char} (h : cs.all Text.isPlainAscii = true) :
    (Text.utf8Bytes (String.ofList cs)).map (fun b => Char.ofNat b.toNat) = cs := by
  rw [Text.utf8Bytes_of_isPlainAscii h, List.map_map]
  refine (List.map_congr_left fun c hc => ?_).trans (List.map_id cs)
  have hbyte := (Text.toNat_ofNat_of_isPlainAscii (List.all_eq_true.mp h c hc)).1
  show Char.ofNat (UInt8.ofNat c.toNat).toNat = c
  rw [hbyte, Char.ofNat_toNat]

/-- What is read of a declaration in bytes decides how they are to be read. -/
theorem charactersOf_eq (p : Preamble) (bytes : List UInt8) :
    charactersOf (Text.utf8Bytes (String.ofList p.head) ++ bytes)
      = match (do if ← Read.declarationNext then Read.prologueStart else pure {} : Read Prologue)
          (Cursor.start (p.head ++ bytes.map fun b => Char.ofNat b.toNat)) with
        | .ok (⟨_, some name, _⟩, after) =>
          match Charset.ofDocumentName? name with
          | some .utf8 => .ok (fromUtf8 (Text.utf8Bytes (String.ofList p.head) ++ bytes))
          | some charset => do
            let headLength := p.head.length + bytes.length - after.rest.length
            let rest ← converted charset after.position
              ((Text.utf8Bytes (String.ofList p.head) ++ bytes).drop headLength)
            pure ((p.head ++ bytes.map fun b => Char.ofNat b.toNat).take headLength ++ rest)
          | none => .error after.position
        | _ => .ok (fromUtf8 (Text.utf8Bytes (String.ofList p.head) ++ bytes)) := by
  obtain ⟨more, hmore⟩ : ∃ more, Text.utf8Bytes (String.ofList p.head) ++ bytes = 0x3C :: 0x3F :: more := by
    rw [Text.utf8Bytes_of_isPlainAscii p.all_isPlainAscii_head]
    exact ⟨_, rfl⟩
  have hlength : (Text.utf8Bytes (String.ofList p.head) ++ bytes).length = p.head.length + bytes.length := by
    rw [Text.utf8Bytes_of_isPlainAscii p.all_isPlainAscii_head, List.length_append, List.length_map]
  have hplain : (Text.utf8Bytes (String.ofList p.head) ++ bytes).map (fun b => Char.ofNat b.toNat)
      = p.head ++ bytes.map fun b => Char.ofNat b.toNat := by
    rw [List.map_append, map_utf8Bytes_of_isPlainAscii p.all_isPlainAscii_head]
  rw [← hplain, ← hlength]
  generalize Text.utf8Bytes (String.ofList p.head) ++ bytes = bs at hmore
  unfold charactersOf
  split
  case h_8 => rfl
  -- The other beginnings are not that of a declaration.
  all_goals simp at hmore

section

variable (p : Preamble) (body : String)

/-- The bytes of a text that begins with a declaration. -/
theorem utf8Bytes_preamble : Text.utf8Bytes (String.ofList p.text ++ body)
    = Text.utf8Bytes (String.ofList p.head)
      ++ (Text.utf8Bytes (String.ofList (p.inner ++ p.ending)) ++ Text.utf8Bytes body) := by
  have htext : String.ofList p.text = String.ofList p.head ++ String.ofList (p.inner ++ p.ending) :=
    String.ofList_append
  rw [Text.utf8Bytes_append, htext, Text.utf8Bytes_append, List.append_assoc]

/-- The bytes of a declaration and a body are read as the two. -/
theorem fromUtf8_preamble :
    fromUtf8 (Text.utf8Bytes (String.ofList p.text ++ body)) = p.text ++ body.toList := by
  rw [fromUtf8_utf8Bytes, String.toList_append, String.toList_ofList]

/-- Without encoding the bytes are those of UTF-8. -/
theorem charactersOf_plain (he : p.encoding = none) :
    charactersOf (Text.utf8Bytes (String.ofList p.text ++ body)) = .ok (p.text ++ body.toList) := by
  have hstart : ∀ cs, Read.Passes (do if ← Read.declarationNext then Read.prologueStart else pure {})
      (p.head ++ (p.inner ++ (p.ending ++ cs))) { version := p.version } (p.ending ++ cs) := by
    intro cs
    refine Read.passes_declarationNext.bind ?_
    rw [Read.beginsDeclaration_head]
    exact Read.passes_prologueStart_plain p he
  obtain ⟨position, hread⟩ := hstart ((Text.utf8Bytes body).map fun b => Char.ofNat b.toNat)
    (Cursor.start _) rfl
  rw [← fromUtf8_preamble, utf8Bytes_preamble, charactersOf_eq, List.map_append,
    map_utf8Bytes_of_isPlainAscii p.all_isPlainAscii_tail, List.append_assoc, hread]

/-- In UTF-8 it is the same to read all bytes and to read those behind the name alone. -/
theorem converted_utf8_preamble (position : Position) : (do
      let rest ← converted .utf8 position
        (Text.utf8Bytes (String.ofList (p.inner ++ p.ending)) ++ Text.utf8Bytes body)
      pure (p.head ++ rest)) = .ok (fromUtf8 (Text.utf8Bytes (String.ofList p.text ++ body))) := by
  unfold converted
  rw [← Text.utf8Bytes_append, Text.decodeStrict_utf8Bytes, fromUtf8_preamble, String.toList_append,
    String.toList_ofList, Preamble.text]
  refine congrArg Except.ok ?_
  simp only [List.append_assoc]

/-- With one they are read in it from behind its name on. -/
theorem charactersOf_encoding {e : EncodingPart} (he : p.encoding = some e) : ∃ position,
    charactersOf (Text.utf8Bytes (String.ofList p.text ++ body))
      = match Charset.ofDocumentName? e.name with
        | some charset => do
          let rest ← converted charset position
            (Text.utf8Bytes (String.ofList (p.inner ++ p.ending)) ++ Text.utf8Bytes body)
          pure (p.head ++ rest)
        | none => .error position := by
  have hstart : ∀ cs, Read.Passes (do if ← Read.declarationNext then Read.prologueStart else pure {})
      (p.head ++ cs) { version := p.version, encoding := some e.name } cs := by
    intro cs
    refine Read.passes_declarationNext.bind ?_
    rw [Read.beginsDeclaration_head]
    exact Read.passes_prologueStart_encoding p he
  have hutf8 := converted_utf8_preamble p body
  rw [utf8Bytes_preamble] at hutf8 ⊢
  rw [charactersOf_eq]
  -- The part that names the encoding is read as bytes. The rest is taken for bytes of any kind.
  generalize Text.utf8Bytes (String.ofList (p.inner ++ p.ending)) ++ Text.utf8Bytes body = bytes at hutf8 ⊢
  obtain ⟨position, hread⟩ := hstart (bytes.map fun b => Char.ofNat b.toNat) (Cursor.start _) rfl
  have hhead : (Text.utf8Bytes (String.ofList p.head)).length = p.head.length := by
    rw [Text.utf8Bytes_of_isPlainAscii p.all_isPlainAscii_head, List.length_map]
  have hlength : p.head.length + bytes.length - (bytes.map fun b => Char.ofNat b.toNat).length
      = p.head.length := by
    rw [List.length_map, Nat.add_sub_cancel]
  refine ⟨position, ?_⟩
  rw [hread]
  dsimp only
  rw [hlength, List.take_left, List.drop_left' hhead]
  cases Charset.ofDocumentName? e.name with
  | none => rfl
  | some charset =>
    by_cases hcharset : charset = .utf8
    · rw [hcharset]
      exact (hutf8 position).symm
    · split
      · rename_i heq
        exact absurd (Option.some.inj heq) hcharset
      · rename_i heq
        rw [Option.some.inj heq]
      · rename_i heq
        cases heq

/-- A text is read as its declaration, as it is written, and what its body is read as. -/
theorem read_of_reread_some {cs : List Char} (h : p.reread body = some cs) (d : Dialect) :
    (Source.bytes (Text.utf8Bytes (String.ofList p.text ++ body))).read d
      = Read.wholeDocument d (p.text ++ cs) := by
  have hcharacters : charactersOf (Text.utf8Bytes (String.ofList p.text ++ body)) = .ok (p.text ++ cs) := by
    unfold Preamble.reread at h
    cases he : p.encoding with
    | none =>
      rw [he] at h
      rw [charactersOf_plain p body he, Option.some.inj h]
    | some e =>
      obtain ⟨position, hcharacters⟩ := charactersOf_encoding p body he
      rw [he] at h
      dsimp only at h
      rw [hcharacters]
      -- A body is read again only in a charset that keeps ASCII, and in it the end of the
      -- declaration is what is written.
      cases hcharset : Charset.ofDocumentName? e.name with
      | none =>
        rw [hcharset] at h
        cases h
      | some charset =>
        rw [hcharset] at h
        obtain ⟨hascii, hdecoded⟩ := Option.ite_none_right_eq_some.mp h
        dsimp only
        unfold converted
        rw [Text.decodeStrict_of_keepsAscii hascii p.all_isPlainAscii_tail]
        split at hdecoded
        · rename_i hall
          obtain rfl := Option.some.inj hdecoded
          rw [hall, Preamble.text]
          refine congrArg Except.ok ?_
          simp only [List.append_assoc]
        · cases hdecoded
  show (charactersOf _ >>= fun cs => Read.wholeDocument d cs) = _
  rw [hcharacters]
  rfl

/-- The end of a declaration has two characters at least. -/
theorem Preamble.exists_tail : ∃ c c' cs, p.inner ++ p.ending = c :: c' :: cs := by
  have hending : ∃ c cs, p.ending = c :: cs := by
    unfold Preamble.ending
    split <;> exact ⟨_, _, rfl⟩
  obtain ⟨g, hinner⟩ | ⟨hinner, hend⟩ := p.inner_cases
  · obtain ⟨c, cs, hc⟩ := List.exists_cons_of_ne_nil g.isNonempty
    obtain ⟨c', cs', hc'⟩ := hending
    cases cs with
    | nil => exact ⟨c, c', cs', by rw [hinner, hc, hc']; rfl⟩
    | cons d cs => exact ⟨c, d, cs ++ p.ending, by rw [hinner, hc]; rfl⟩
  · exact ⟨'?', '>', [], by rw [hinner, hend]; rfl⟩

/-- In a wide charset the end of a declaration is something else already, if it is anything. -/
theorem read_converted_of_isWide {e : EncodingPart} (he : p.encoding = some e) {charset : Charset}
    (hwide : charset.isWide = true) (position : Position) (bytes : List UInt8) (d : Dialect) : ∃ q,
    (converted charset position (Text.utf8Bytes (String.ofList (p.inner ++ p.ending)) ++ bytes)
      >>= fun rest => Read.wholeDocument d (p.head ++ rest)) = .error q := by
  have hbyte : ∀ c, Text.isPlainAscii c = true →
      0 < (UInt8.ofNat c.toNat).toNat ∧ (UInt8.ofNat c.toNat).toNat < 0x80 := by
    intro c hc
    obtain ⟨hsame, hascii, -⟩ := Text.toNat_ofNat_of_isPlainAscii hc
    rwa [hsame]
  -- In such a charset the first two bytes become no character or one above ASCII. Either way the
  -- declaration does not go on.
  have hstops : ∀ c cs, 0x100 ≤ c.toNat →
      ∃ q, Read.wholeDocument d (p.head ++ c :: cs) = .error q := by
    intro c cs hc
    obtain ⟨q, hq⟩ := Read.stops_document p he d hc (Cursor.start (p.head ++ c :: cs)) rfl
    refine ⟨q, ?_⟩
    unfold Read.wholeDocument Read.all
    rw [hq]
    rfl
  obtain ⟨c, c', cs, htail⟩ := p.exists_tail
  have hplain := p.all_isPlainAscii_tail
  rw [Text.utf8Bytes_of_isPlainAscii hplain, htail]
  rw [htail, List.all_cons, List.all_cons, Bool.and_eq_true_iff, Bool.and_eq_true_iff] at hplain
  simp only [List.map_cons, List.cons_append]
  unfold converted
  obtain hnone | ⟨first, more, hsome, hfirst⟩ := Text.decodeStrict_of_isWide hwide
    (hbyte c hplain.1) (hbyte c' hplain.2.1) (cs.map (fun c => UInt8.ofNat c.toNat) ++ bytes)
  · refine ⟨position, ?_⟩
    split
    · rename_i heq
      rw [heq] at hnone
      cases hnone
    · rfl
  · rw [hsome]
    exact hstops first more hfirst

/-- Otherwise it cannot be read. -/
theorem read_of_reread_none (h : p.reread body = none) (d : Dialect) : ∃ position,
    (Source.bytes (Text.utf8Bytes (String.ofList p.text ++ body))).read d = .error position := by
  unfold Preamble.reread at h
  cases he : p.encoding with
  | none =>
    rw [he] at h
    cases h
  | some e =>
    obtain ⟨position, hcharacters⟩ := charactersOf_encoding p body he
    show ∃ q, (charactersOf _ >>= fun cs => Read.wholeDocument d cs) = .error q
    rw [hcharacters]
    rw [he] at h
    dsimp only at h
    cases hcharset : Charset.ofDocumentName? e.name with
    | none => exact ⟨position, rfl⟩
    | some charset =>
      rw [hcharset] at h
      dsimp only at h ⊢
      -- In a charset that keeps ASCII the declaration is read, so the body is at fault. In a wide
      -- one the declaration is not read either.
      rcases Charset.keepsAscii_or_isWide hcharset with hascii | hwide
      · unfold converted
        rw [if_pos hascii] at h
        rw [Text.decodeStrict_of_keepsAscii hascii p.all_isPlainAscii_tail]
        rcases hdecoded : charset.decodeStrict (Text.utf8Bytes body) with ⟨cs, whole⟩
        rw [hdecoded] at h
        cases whole with
        | true => cases h
        | false => exact ⟨position, rfl⟩
      · rw [bind_assoc]
        exact read_converted_of_isWide p he hwide position (Text.utf8Bytes body) d

end

end AttrTemplates.Xml
