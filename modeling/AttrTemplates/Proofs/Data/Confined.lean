import AttrTemplates.Data.Markup
import AttrTemplates.Data.Toml
import AttrTemplates.Data.Json

/-!
# `AttrTemplates.Proofs.Data.Confined`: what reading data can raise

Data that cannot be read are nearly always just malformed, but a reader may raise a failure of its
own. `Confined kinds r` says that nothing else goes wrong, and that what is raised is of certain
kinds. In particular the data have an end. It is a class, with an instance for each step and each
reader, tagged for `grind`, which follows the branches: in a proof on a reader only what it does
again and again is left to say.

JSON, TOML and XML raise nothing but that they are nested too deeply.
-/

set_option autoImplicit false

namespace AttrTemplates.Data

variable {α β σ : Type} {kinds : List FailureKind}

/-! ### The judgment -/

/-- Data are just malformed, or what is raised is of certain kinds. That they have no end is
neither. -/
inductive Fault.IsOf (kinds : List FailureKind) : Fault → Prop
  | malformed : IsOf kinds .malformed
  | failure {f : Failure} : f.kind ∈ kinds → IsOf kinds (.failure f)

/-- Whatever is raised is of certain kinds, and otherwise data are at most malformed. -/
class Confined (kinds : List FailureKind) (r : Except Fault α) : Prop where
  isOf (e : Fault) : r = .error e → e.IsOf kinds

/-- From whatever state a reader is started, what it raises is of certain kinds. -/
class ConfinedFrom (kinds : List FailureKind) (r : StateT σ (Except Fault) α) : Prop where
  confined (s : σ) : Confined kinds (r.run s)

/-- Nothing goes wrong where there is a value. -/
@[grind .]
instance confined_ok (a : α) : Confined kinds (.ok a) where
  isOf _ h := by cases h

/-- Nothing goes wrong in a step that only returns. -/
@[grind .]
instance confined_pure (a : α) : Confined kinds (pure a) := confined_ok a

/-- Malformed data are allowed for, whatever the kinds. -/
@[grind .]
instance confined_malformed : Confined kinds (.error .malformed : Except Fault α) where
  isOf _ h := by
    cases h
    exact .malformed

/-- The same for a step that turns data down. -/
@[grind .]
instance confined_throw : Confined kinds (throw .malformed : Except Fault α) := confined_malformed

/-- A failure of one of the kinds may be raised. -/
theorem confined_failure {f : Failure} (h : f.kind ∈ kinds) :
    Confined kinds (.error (.failure f) : Except Fault α) where
  isOf _ he := by
    cases he
    exact .failure h

/-- Too much nesting is a `RecursionError`. -/
@[grind .]
instance confined_nestingTooDeep :
    Confined [.recursionError] (throw (.failure .nestingTooDeep) : Except Fault α) :=
  confined_failure (List.mem_singleton.mpr rfl)

/-- The kind of what is raised is one of the kinds. -/
theorem Confined.kind_mem {r : Except Fault α} (hr : Confined kinds r) {f : Failure}
    (h : r = .error (.failure f)) : f.kind ∈ kinds := by
  cases hr.isOf _ h with
  | failure hkind => exact hkind

/-- Data that are confined have an end. -/
theorem Confined.ne_endless {r : Except Fault α} (hr : Confined kinds r) : r ≠ .error .endless :=
  fun h => nomatch hr.isOf _ h

/-- In a sequence the second step counts only for what the first gives. -/
theorem Confined.bind_of_ok {r : Except Fault α} {next : α → Except Fault β}
    (hr : Confined kinds r) (hnext : ∀ a, r = .ok a → Confined kinds (next a)) :
    Confined kinds (r >>= next) where
  isOf e h := by
    cases r with
    | error e' => exact hr.isOf e (by cases h; rfl)
    | ok a => exact (hnext a rfl).isOf e h

/-- A sequence is confined if both steps are. -/
@[grind ←]
theorem Confined.bind {r : Except Fault α} {next : α → Except Fault β} (hr : Confined kinds r)
    (hnext : ∀ a, Confined kinds (next a)) : Confined kinds (r >>= next) :=
  hr.bind_of_ok fun a _ => hnext a

/-- What is made of a value raises nothing further. -/
@[grind ←]
theorem Confined.map {r : Except Fault α} (hr : Confined kinds r) (f : α → β) :
    Confined kinds (r.map f) where
  isOf e h := by
    cases r with
    | error e' => exact hr.isOf e (by cases h; rfl)
    | ok a => cases h

/-- A choice is confined if both branches are. -/
theorem confined_ite {c : Prop} [Decidable c] {r r' : Except Fault α} (h : Confined kinds r)
    (h' : Confined kinds r') : Confined kinds (if c then r else r') := by
  split
  · exact h
  · exact h'

/-- A list is read item by item, and only the readers of its own items count. -/
theorem Confined.mapM {read : α → Except Fault β} {as : List α}
    (h : ∀ a ∈ as, Confined kinds (read a)) : Confined kinds (as.mapM read) := by
  induction as with
  | nil => exact confined_ok []
  | cons a as ih =>
    rw [List.mapM_cons]
    exact (h a List.mem_cons_self).bind fun b =>
      (ih fun a' ha' => h a' (List.mem_cons_of_mem a ha')).bind fun bs => confined_ok (b :: bs)

/-- Nothing goes wrong in a step that only returns, whatever the state. -/
@[grind .]
instance confinedFrom_pure (a : α) : ConfinedFrom kinds (pure a : StateT σ (Except Fault) α) :=
  ⟨fun _ => confined_ok _⟩

/-- Malformed data are allowed for in every state. -/
@[grind .]
instance confinedFrom_throw : ConfinedFrom kinds (throw .malformed : StateT σ (Except Fault) α) :=
  ⟨fun _ => confined_malformed⟩

/-- A failure of one of the kinds may be raised in every state. -/
theorem confinedFrom_failure {f : Failure} (h : f.kind ∈ kinds) :
    ConfinedFrom kinds (throw (.failure f) : StateT σ (Except Fault) α) :=
  ⟨fun _ => confined_failure h⟩

/-- Too much nesting is a `RecursionError` in every state. -/
@[grind .]
instance confinedFrom_nestingTooDeep :
    ConfinedFrom [.recursionError] (throw (.failure .nestingTooDeep) : StateT σ (Except Fault) α) :=
  ⟨fun _ => confined_nestingTooDeep⟩

/-- A look at the state raises nothing. -/
@[grind .]
instance confinedFrom_get : ConfinedFrom kinds (get : StateT σ (Except Fault) σ) :=
  ⟨fun _ => confined_ok _⟩

/-- A new state raises nothing. -/
@[grind .]
instance confinedFrom_set (s : σ) :
    ConfinedFrom kinds (set s : StateT σ (Except Fault) PUnit) :=
  ⟨fun _ => confined_ok _⟩

/-- A change of the state raises nothing. -/
@[grind .]
instance confinedFrom_modify (f : σ → σ) :
    ConfinedFrom kinds (modify f : StateT σ (Except Fault) PUnit) :=
  ⟨fun _ => confined_ok _⟩

/-- In a sequence the second reader is started from any value and state that the first one leaves.
-/
@[grind ←]
theorem ConfinedFrom.bind {r : StateT σ (Except Fault) α} {next : α → StateT σ (Except Fault) β}
    (hr : ConfinedFrom kinds r) (hnext : ∀ a, ConfinedFrom kinds (next a)) :
    ConfinedFrom kinds (r >>= next) :=
  ⟨fun s => (hr.confined s).bind fun p => (hnext p.1).confined p.2⟩

/-- A check that may raise something, in front of what follows in either case. -/
theorem confinedFrom_checked {c : Prop} [Decidable c] {check : StateT σ (Except Fault) β}
    {next : StateT σ (Except Fault) α} (hcheck : ConfinedFrom kinds check)
    (hnext : ConfinedFrom kinds next) :
    ConfinedFrom kinds (if c then do { let _ ← check; next } else next) := by
  split
  · exact hcheck.bind fun _ => hnext
  · exact hnext

/-! ### Taking characters -/

namespace Scan

/-- The text to come is the state. -/
@[grind .]
instance confined_rest : ConfinedFrom kinds rest := confinedFrom_get

/-- There may be no next character, which is no fault. -/
@[grind .]
instance confined_peek : ConfinedFrom kinds peek := by
  unfold peek
  grind

/-- A string that is looked for may be missing. -/
@[grind .]
instance confined_looksAt (s : String) : ConfinedFrom kinds (looksAt s) := by
  unfold looksAt
  grind

/-- Characters are skipped, as many as there are. -/
@[grind .]
instance confined_skip (n : Nat) : ConfinedFrom kinds (skip n) := confinedFrom_modify _

/-- A string that may be there is skipped if it is. -/
@[grind .]
instance confined_accept (s : String) : ConfinedFrom kinds (accept s) := by
  unfold accept
  grind

/-- A string that must be there is at most missing. -/
@[grind .]
instance confined_expect (s : String) : ConfinedFrom kinds (expect s) := by
  unfold expect
  grind

/-- A run of characters may be empty. -/
@[grind .]
instance confined_takeWhile (p : Char → Bool) : ConfinedFrom kinds (takeWhile p) := by
  unfold takeWhile
  grind

/-- A run of characters that is skipped may be empty. -/
@[grind .]
instance confined_skipWhile (p : Char → Bool) : ConfinedFrom kinds (skipWhile p) :=
  confinedFrom_modify _

/-- A reader that has no result turns the data down. -/
@[grind .]
instance confined_ofOption (f : List Char → Option (α × List Char)) :
    ConfinedFrom kinds (ofOption f) := by
  unfold ofOption
  grind

/-- What must take up the whole text raises nothing more when some is left. -/
theorem confined_all {r : Scan α} (h : ConfinedFrom kinds r) (cs : List Char) :
    Confined kinds (all r cs) := by
  refine (h.confined cs).bind fun p => ?_
  grind

end Scan

open Scan

/-! ### JSON -/

namespace Json

/-- Spaces may be missing. -/
@[grind .]
instance confined_spaces : ConfinedFrom kinds spaces := confined_skipWhile _

/-- A string raises nothing but that it is malformed. -/
@[grind .]
instance confined_string : ConfinedFrom kinds string := by
  unfold string
  grind

/-- The digits in front of the point are at most missing, or have a zero in front. -/
@[grind .]
instance confined_wholeDigits : ConfinedFrom kinds wholeDigits := by
  unfold wholeDigits
  grind

/-- The digits behind the point are at most missing. -/
@[grind .]
instance confined_fraction : ConfinedFrom kinds fraction := by
  unfold fraction
  grind

/-- The digits of the exponent are at most missing. -/
@[grind .]
instance confined_exponent : ConfinedFrom kinds exponent := by
  unfold exponent
  grind

/-- A number is put together from its parts and may be of any size. -/
@[grind .]
instance confined_number : ConfinedFrom kinds number := by
  unfold number
  grind

/-- Too much nesting is a `RecursionError`, whatever it is that is nested. -/
@[grind .]
instance confined_tooDeep (what : String) :
    ConfinedFrom [.recursionError] (throw (tooDeep what) : Scan α) :=
  confinedFrom_failure (List.mem_singleton.mpr rfl)

/-- The readers of values, items and members have one fuel, and call one another. -/
theorem confined_value_items_members (fuel : Nat) :
    (∀ depth, ConfinedFrom [.recursionError] (value depth fuel))
    ∧ (∀ depth read, ConfinedFrom [.recursionError] (items depth read fuel))
    ∧ ∀ depth read, ConfinedFrom [.recursionError] (members depth read fuel) := by
  -- The three readers call one another with one fuel less, so they are done together.
  induction fuel with
  | zero =>
    refine ⟨fun _ => ?_, fun _ _ => ?_, fun _ _ => ?_⟩
    all_goals exact confinedFrom_throw
  | succ fuel ih =>
    obtain ⟨hvalue, hitems, hmembers⟩ := ih
    refine ⟨fun depth => ?_, fun depth read => ?_, fun depth read => ?_⟩
    · unfold value
      grind
    · unfold items
      grind
    · unfold members
      -- A member is read step by step down to its value, since the value is where the hypothesis
      -- comes in.
      refine confined_string.bind fun k => confined_spaces.bind fun _ => ?_
      refine (confined_expect _).bind fun _ => confined_spaces.bind fun _ => ?_
      refine (hvalue depth).bind fun v => ?_
      grind

/-- JSON is a value with nothing behind it, and raises nothing else than that it is nested too
deeply. -/
theorem confined_read (s : String) : Confined [.recursionError] (read s) := by
  have hvalue := (confined_value_items_members (s.toList.length + 1)).1 0
  exact confined_all (by grind) _

end Json

/-! ### TOML -/

namespace Toml

/-- Spaces may be missing. -/
@[grind .]
instance confined_spaces : ConfinedFrom kinds spaces := confined_skipWhile _

/-- A comment is at most of characters that are not allowed. -/
@[grind .]
instance confined_comment : ConfinedFrom kinds comment := by
  unfold comment
  grind

/-- Gaps between items are spaces, line ends and comments, one a round. -/
@[grind .]
instance confined_gaps (fuel : Nat) : ConfinedFrom kinds (gaps fuel) := by
  induction fuel with
  | zero => exact confinedFrom_pure _
  | succ fuel ih =>
    unfold gaps
    grind

/-- A gap is as long as it is. -/
@[grind .]
instance confined_gap : ConfinedFrom kinds gap := by
  unfold gap
  grind

/-- A numbered character is at most none. -/
@[grind .]
instance confined_numberedChar (length : Nat) : ConfinedFrom kinds (numberedChar length) := by
  unfold numberedChar
  grind

/-- An escape is at most unknown. -/
@[grind .]
instance confined_escape (manyLines : Bool) : ConfinedFrom kinds (escape manyLines) := by
  unfold escape
  refine (confined_skip 1).bind fun _ => confined_peek.bind fun next => ?_
  grind

/-- Escaped text is read one piece a round and at most left open. -/
@[grind .]
instance confined_escapedText (manyLines : Bool) (read : List Char) (fuel : Nat) :
    ConfinedFrom kinds (escapedText manyLines read fuel) := by
  induction fuel generalizing read with
  | zero => exact confinedFrom_throw
  | succ fuel ih =>
    unfold escapedText
    grind

/-- Literal lines are read one piece a round and at most left open. -/
@[grind .]
instance confined_literalLines (read : List Char) (fuel : Nat) :
    ConfinedFrom kinds (literalLines read fuel) := by
  induction fuel generalizing read with
  | zero => exact confinedFrom_throw
  | succ fuel ih =>
    unfold literalLines
    grind

/-- Text in quotes is at most left open. -/
@[grind .]
instance confined_quotedText : ConfinedFrom kinds quotedText := by
  unfold quotedText
  grind

/-- Literal text is at most left open. -/
@[grind .]
instance confined_literalText : ConfinedFrom kinds literalText := by
  unfold literalText
  grind

/-- Quotes that end a text may have more of them in front, two at most. -/
@[grind .]
instance confined_quotesBehind (quote : String) : ConfinedFrom kinds (quotesBehind quote) := by
  unfold quotesBehind
  grind

/-- What a text begins with decides how it is read. -/
@[grind .]
instance confined_text : ConfinedFrom kinds text := by
  unfold text
  grind

/-- Infinity and what is no number have names. -/
@[grind .]
instance confined_namedNumber : ConfinedFrom kinds namedNumber := by
  unfold namedNumber
  grind

/-- Dates and numbers are told apart by their look, and are at most malformed. -/
@[grind .]
instance confined_dateOrNumber : ConfinedFrom kinds dateOrNumber := by
  unfold dateOrNumber
  grind

/-- A part of a key is a word or a text. -/
@[grind .]
instance confined_keyPart : ConfinedFrom kinds keyPart := by
  unfold keyPart
  grind

/-- The parts of a key are read one a round. -/
@[grind .]
instance confined_keyParts (read : Key) (fuel : Nat) : ConfinedFrom kinds (keyParts read fuel) := by
  induction fuel generalizing read with
  | zero => exact confinedFrom_throw
  | succ fuel ih =>
    unfold keyParts
    grind

/-- A key has one part at least. -/
@[grind .]
instance confined_key : ConfinedFrom kinds key := by
  unfold key
  grind

/-- The readers of values, items and inline tables have one fuel, and call one another. -/
theorem confined_value_items_inlineEntries (fuel : Nat) :
    (∀ depth, ConfinedFrom [.recursionError] (value depth fuel))
    ∧ (∀ depth read, ConfinedFrom [.recursionError] (items depth read fuel))
    ∧ ∀ depth read closed, ConfinedFrom [.recursionError] (inlineEntries depth read closed fuel) := by
  -- As for JSON, the three readers go one step of fuel down together.
  induction fuel with
  | zero =>
    refine ⟨fun _ => ?_, fun _ _ => ?_, fun _ _ _ => ?_⟩
    all_goals exact confinedFrom_throw
  | succ fuel ih =>
    obtain ⟨hvalue, hitems, hentries⟩ := ih
    refine ⟨fun depth => ?_, fun depth read => ?_, fun depth read closed => ?_⟩
    · unfold value
      grind
    · unfold items
      grind
    · unfold inlineEntries
      refine confined_key.bind fun k => (confined_expect _).bind fun _ => ?_
      refine confined_spaces.bind fun _ => (hvalue depth).bind fun v => ?_
      grind

/-- A change that is not allowed makes the document malformed. -/
@[grind .]
instance confined_allowed (a? : Option α) : ConfinedFrom kinds (allowed a?) := by
  unfold allowed
  grind

/-- A statement raises what its value does, and where it puts it can only be malformed. -/
@[grind .]
instance confined_statement (d : Document) : ConfinedFrom [.recursionError] (statement d) := by
  have hvalue (fuel : Nat) := (confined_value_items_inlineEntries fuel).1 0
  unfold statement
  refine confined_peek.bind fun next => ?_
  split
  · refine (confined_accept _).bind fun inList => ?_
    grind
  · exact confinedFrom_pure d
  · refine confined_key.bind fun k => (confined_expect _).bind fun _ => ?_
    refine confined_spaces.bind fun _ => confined_rest.bind fun cs => ?_
    grind

/-- A document is read line by line. -/
theorem confined_lines (d : Document) (fuel : Nat) :
    ConfinedFrom [.recursionError] (lines d fuel) := by
  induction fuel generalizing d with
  | zero => exact confinedFrom_throw
  | succ fuel ih =>
    unfold lines
    refine confined_spaces.bind fun _ => confined_peek.bind fun next => ?_
    grind

/-- TOML raises nothing else than that values are nested too deeply. -/
theorem confined_read (s : String) : Confined [.recursionError] (read s) :=
  (confined_all (confined_lines _ _) _).map _

end Toml

/-! ### XML -/

namespace Markup

/-- Half of a pair of surrogates makes the text malformed. -/
@[grind .]
instance confined_unpaired (s : String) : Confined kinds (unpaired s) := by
  unfold unpaired
  grind

/-- XML as data raises nothing else than that elements are nested too deeply. -/
theorem confined_read (s : String) : Confined [.recursionError] (read s) := by
  unfold read
  grind

end Markup

end AttrTemplates.Data
