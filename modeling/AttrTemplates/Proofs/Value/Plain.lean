import AttrTemplates.Proofs.Xml.Reader
import AttrTemplates.Text.Word
import AttrTemplates.Value.Iteration

/-!
# `AttrTemplates.Proofs.Value.Plain`: plain data

Plain data is what data formats have in common: truth values, numbers, texts, sequences, mappings
and nothing at all, where a document may hold every text. With it go the states of loops and their
operations, since a template comes across them by itself.

* `Value.isPlain` says so of a value. What is in a plain value is plain, be it looked up
  (`Entries.HasPlain.get`) or run over (`Value.isPlain_of_items?`);
* `Value.isLegalText_text`: a document may hold the text that a plain value is written as.
-/

set_option autoImplicit false

namespace AttrTemplates

open Xml

/-! ### Characters and texts that a document may hold -/

/-- A document may hold digits. -/
theorem isXmlChar_of_isDigit {c : Char} (h : c.isDigit = true) : isXmlChar c = true := by
  obtain ⟨hlow, hhigh⟩ := Char.isDigit_iff_toNat.mp h
  have : '0'.toNat = 0x30 := rfl
  have : '9'.toNat = 0x39 := rfl
  exact isXmlChar_of_le (by omega) (by omega) (by omega)

/-- The ranges of word characters stay below the planes in which halves are held. -/
private theorem wordRanges_below_halves :
    (Text.wordRanges.toList.all fun (lo, hi) =>
      0x80 ≤ lo && hi ≤ 0xEFFFF && (hi < 0xFFFE || 0xFFFF < lo)) = true := by
  decide +kernel

/-- A document may hold the characters of words. -/
theorem isXmlChar_of_isWord {c : Char} (h : Text.isWord c = true) : isXmlChar c = true := by
  by_cases hascii : c.toNat < 0x80
  · have hword : ((List.range 0x80).all fun n => !((Char.ofNat n).isAlphanum || Char.ofNat n == '_')
        || isXmlChar (Char.ofNat n)) = true := by decide +kernel
    have hlegal := List.all_eq_true.mp hword c.toNat (List.mem_range.mpr hascii)
    rw [Char.ofNat_toNat, ← Text.isWord_ascii c hascii, h] at hlegal
    exact hlegal
  · unfold Text.isWord at h
    rw [if_neg hascii, ← Array.any_toList, List.any_eq_true] at h
    obtain ⟨⟨lo, hi⟩, hmem, hbetween⟩ := h
    have hbelow := List.all_eq_true.mp wordRanges_below_halves _ hmem
    simp only [Bool.or_eq_true, Bool.and_eq_true, decide_eq_true_eq] at hbetween hbelow
    exact isXmlChar_of_le (by omega) (by omega) (by omega)

/-- A document may hold a decimal number. -/
theorem all_isXmlChar_toDigits (n : Nat) : (Nat.toDigits 10 n).all isXmlChar = true := by
  rw [List.all_eq_true]
  intro c hc
  exact isXmlChar_of_isDigit (Nat.isDigit_of_mem_toDigits (by decide) (by decide) hc)

/-- A document may hold hexadecimal digits. -/
theorem all_isXmlChar_hexDigits (width n : Nat) :
    (Text.hexDigits width n).all isXmlChar = true := by
  have hdigit : ∀ d < 16, isXmlChar (Nat.digitChar d) = true := by decide
  induction width generalizing n with
  | zero => rfl
  | succ width ih =>
    rw [Text.hexDigits, List.all_append, ih]
    simp [hdigit (n % 16) (Nat.mod_lt n (by decide))]

/-- A text that was put together from texts may be held if they and what stands between them may. -/
theorem isLegalText_intercalate {sep : String} (hsep : isLegalText sep = true) {ss : List String}
    (h : ∀ s ∈ ss, isLegalText s = true) : isLegalText (sep.intercalate ss) = true := by
  induction ss with
  | nil => rfl
  | cons s ss ih =>
    obtain ⟨hs, hss⟩ := List.forall_mem_cons.mp h
    cases ss with
    | nil => simpa using hs
    | cons t ts =>
      rw [String.intercalate_cons_cons, isLegalText_append, isLegalText_append, hs, hsep, ih hss]
      rfl

/-- A document may hold a natural number as it is written. -/
theorem isLegalText_toString_nat (n : Nat) : isLegalText (toString n) = true := by
  show isLegalText (String.ofList (Nat.toDigits 10 n)) = true
  rw [isLegalText_ofList, all_isXmlChar_toDigits]

/-- A document may hold an integer as it is written, with its sign. -/
theorem isLegalText_toString_int (n : Int) : isLegalText (toString n) = true := by
  cases n with
  | ofNat n => exact isLegalText_toString_nat n
  | negSucc n =>
    show isLegalText ("-" ++ toString (n + 1)) = true
    rw [isLegalText_append, isLegalText_toString_nat]
    rfl

/-- A quoted text has escapes where it is not printable, and what was there elsewhere. -/
theorem isLegalText_quoted {s : String} (h : isLegalText s = true) :
    isLegalText (Text.quoted s) = true := by
  have hquote : isXmlChar (Text.quoteFor s.toList) = true := by
    unfold Text.quoteFor
    split <;> rfl
  have hchar : ∀ c, isXmlChar c = true →
      (Text.quotedChar (Text.quoteFor s.toList) c).all isXmlChar = true := by
    intro c hc
    have hbackslash : isXmlChar '\\' = true := rfl
    -- An escape is a backslash and ASCII, and a character that is not escaped was legal before.
    unfold Text.quotedChar
    split
    · simp [hc, hbackslash]
    · split
      · rfl
      · rfl
      · rfl
      · rfl
      · dsimp only
        split
        · simp [hc]
        · split
          · simp [hbackslash, all_isXmlChar_hexDigits]; rfl
          · split
            · simp [hbackslash, all_isXmlChar_hexDigits]; rfl
            · simp [hbackslash, all_isXmlChar_hexDigits]; rfl
  unfold Text.quoted
  dsimp only
  rw [isLegalText_ofList, List.all_append, List.all_cons, hquote, List.all_flatMap]
  simp only [Bool.true_and, List.all_cons, List.all_nil, Bool.and_true, hquote]
  rw [List.all_eq_true]
  intro c hc
  exact hchar c (List.all_eq_true.mp h c hc)

/-! ### Floats -/

/-- A positive decimal is written with digits, a point and an exponent. -/
theorem all_isXmlChar_decimal (d : Number.Decimal) :
    (d.text Number.FloatLayout.plain).all isXmlChar = true := by
  have hdigits : (Number.dropTrailingZeros (Nat.toDigits 10 d.digits)).all isXmlChar = true := by
    rw [List.all_eq_true]
    intro c hc
    unfold Number.dropTrailingZeros at hc
    have hmem := (List.dropWhile_sublist _).subset (List.mem_reverse.mp hc)
    exact List.all_eq_true.mp (all_isXmlChar_toDigits _) c (List.mem_reverse.mp hmem)
  have hzeros : ∀ n, (List.replicate n '0').all isXmlChar = true := by
    intro n
    rw [List.all_eq_true]
    intro c hc
    rw [List.eq_of_mem_replicate hc]
    rfl
  have hpoint : isXmlChar '.' = true := rfl
  have hzero : isXmlChar '0' = true := rfl
  have he : isXmlChar 'e' = true := rfl
  unfold Number.Decimal.text
  dsimp only
  generalize Number.dropTrailingZeros (Nat.toDigits 10 d.digits) = digits at hdigits
  -- The point stands in front of the digits, behind them, or among them.
  split
  · split
    · simp only [List.all_cons, List.all_append, hpoint, hzero, hzeros, hdigits, Bool.and_true]
    · split
      · simp only [List.all_cons, List.all_append, List.all_nil, hpoint, hzero, hzeros, hdigits,
          Bool.and_true]
      · have hparts : (digits.take d.point.natAbs ++ digits.drop d.point.natAbs).all isXmlChar
            = true := by
          rwa [List.take_append_drop]
        rw [List.all_append, Bool.and_eq_true] at hparts
        rw [List.all_append, List.all_cons, hparts.1, hparts.2, hpoint]
        rfl
  · -- Behind the first digit stands a point, if there are more.
    have hsign : isXmlChar (if d.point - 1 < 0 then '-' else '+') = true := by
      split <;> rfl
    generalize (if d.point - 1 < 0 then '-' else '+') = sign at hsign
    cases digits with
    | nil => simp [hsign, he, hzeros, all_isXmlChar_toDigits]
    | cons c cs =>
      cases cs <;>
        simpa [hsign, he, hpoint, hzeros, all_isXmlChar_toDigits] using hdigits

/-- A document may hold a float as it is written, be it a number or not. -/
theorem isLegalText_floatText (x : Float) : isLegalText (Number.floatText x) = true := by
  have hsign : ∀ (negative : Prop) [Decidable negative] (s : String), isLegalText s = true →
      isLegalText (if negative then "-" ++ s else s) = true := by
    intro negative _ s hs
    split
    · rw [isLegalText_append, hs]
      rfl
    · exact hs
  unfold Number.floatText
  dsimp only
  -- Not a number, infinite, zero, or written with digits.
  split
  · rfl
  · split
    · exact hsign _ _ rfl
    · split
      · exact hsign _ _ rfl
      · refine hsign _ _ ?_
        rw [isLegalText_ofList, all_isXmlChar_decimal]

/-! ### Plain data -/

mutual

/-- Whether a value is plain data. The operations of loops belong to it: each gives a truth value or
a number. -/
def Value.isPlain : Value → Bool
  | .undefined => true
  | .bool _ => true
  | .int _ => true
  | .float _ => true
  | .str s => isLegalText s
  | .list items => arePlain items
  | .tuple items => arePlain items
  | .map entries => areEntriesPlain entries
  | .loop _ => true
  | .operation name _ (.ok (.bool _)) => isLegalText name
  | .operation name _ (.ok (.int _)) => isLegalText name
  | _ => false

/-- Whether some values are plain data. -/
def arePlain : List Value → Bool
  | [] => true
  | v :: vs => v.isPlain && arePlain vs

/-- Whether the keys and the values of some entries are plain data. -/
def areEntriesPlain : List (Value × Value) → Bool
  | [] => true
  | (k, v) :: rest => k.isPlain && v.isPlain && areEntriesPlain rest

end

/-- Truth values are plain. -/
theorem Value.isPlain_bool (b : Bool) : (Value.bool b).isPlain = true := by rw [isPlain]

/-- A string is plain if a document may hold it. -/
theorem Value.isPlain_str (s : String) : (Value.str s).isPlain = isLegalText s := by rw [isPlain]

/-- Values in a sequence are plain if each of them is. -/
theorem arePlain_iff {vs : List Value} : arePlain vs = true ↔ ∀ v ∈ vs, v.isPlain = true := by
  induction vs with
  | nil => exact ⟨(fun _ _ hv => nomatch hv), fun _ => rfl⟩
  | cons v vs ih => rw [arePlain, Bool.and_eq_true, ih, List.forall_mem_cons]

/-- Entries are plain if each key and each value is. -/
theorem areEntriesPlain_iff {entries : Entries} :
    areEntriesPlain entries = true ↔ ∀ e ∈ entries, e.1.isPlain = true ∧ e.2.isPlain = true := by
  induction entries with
  | nil => exact ⟨(fun _ _ he => nomatch he), fun _ => rfl⟩
  | cons e entries ih =>
    rw [areEntriesPlain, Bool.and_eq_true, Bool.and_eq_true, ih, List.forall_mem_cons]

/-- The outcome of an operation of a loop is plain data itself. -/
theorem Value.plain_operation {name : String} {parameters : List Parameter}
    {outcome : Except Failure Value}
    (h : (Value.operation name parameters outcome).isPlain = true) :
    isLegalText name = true ∧ ∃ v, outcome = .ok v ∧ v.isPlain = true := by
  cases outcome with
  | error f => cases h
  | ok v =>
    cases v with
    | bool b => exact ⟨h, .bool b, rfl, rfl⟩
    | int n => exact ⟨h, .int n, rfl, rfl⟩
    | _ => exact nomatch h

mutual

/-- A document may hold the form that a plain value has inside another one. -/
theorem Value.isLegalText_shown : (v : Value) → v.isPlain = true → isLegalText v.shown = true
  | .undefined, _ => rfl
  | .bool b, _ => by cases b <;> rfl
  | .int n, _ => isLegalText_toString_int n
  | .float x, _ => isLegalText_floatText x
  | .str _, h => isLegalText_quoted h
  | .list items, h => by
    rw [Value.shown, isLegalText_append, isLegalText_append,
      isLegalText_intercalate rfl (isLegalText_shownAll items h)]
    rfl
  | .tuple [], _ => rfl
  | .tuple [item], h => by
    rw [Value.shown, isLegalText_append, isLegalText_append,
      item.isLegalText_shown (Bool.and_eq_true_iff.mp h).1]
    rfl
  | .tuple (item :: next :: items), h => by
    rw [Value.shown, isLegalText_append, isLegalText_append,
      isLegalText_intercalate rfl (isLegalText_shownAll (item :: next :: items) h)]
    · rfl
    · simp
  | .map entries, h => by
    rw [Value.shown, isLegalText_append, isLegalText_append,
      isLegalText_intercalate rfl (isLegalText_shownEntries entries h)]
    rfl
  | .loop state, _ => by
    show isLegalText ("<RepeatItem " ++ toString (state.index + 1) ++ "/" ++ toString state.length
      ++ ">") = true
    simp only [isLegalText_append, isLegalText_toString_int]
    rfl
  | .operation name _ _, h => by
    rw [Value.shown, isLegalText_append, isLegalText_append, (Value.plain_operation h).1]
    rfl

/-- A document may hold what is shown of plain values. -/
theorem isLegalText_shownAll : (vs : List Value) → arePlain vs = true →
    ∀ s ∈ shownAll vs, isLegalText s = true
  | [], _ => fun _ hs => nomatch hs
  | v :: vs, h => by
    obtain ⟨hv, hvs⟩ := Bool.and_eq_true_iff.mp h
    exact List.forall_mem_cons.mpr ⟨v.isLegalText_shown hv, isLegalText_shownAll vs hvs⟩

/-- A document may hold what is shown of plain entries. -/
theorem isLegalText_shownEntries : (entries : List (Value × Value)) →
    areEntriesPlain entries = true → ∀ s ∈ shownEntries entries, isLegalText s = true
  | [], _ => fun _ hs => nomatch hs
  | (k, v) :: rest, h => by
    obtain ⟨hentry, hrest⟩ := Bool.and_eq_true_iff.mp h
    obtain ⟨hk, hv⟩ := Bool.and_eq_true_iff.mp hentry
    refine List.forall_mem_cons.mpr ⟨?_, isLegalText_shownEntries rest hrest⟩
    rw [isLegalText_append, isLegalText_append, k.isLegalText_shown hk, v.isLegalText_shown hv]
    rfl

end

/-- A document may hold the text of a plain value. -/
theorem Value.isLegalText_text {v : Value} (h : v.isPlain = true) : isLegalText v.text = true := by
  unfold Value.text
  split
  · exact h
  · cases h
  · cases h
  · cases h
  · exact v.isLegalText_shown h

/-! ### What is in plain data -/

/-- The values that names are bound to are plain. -/
def Entries.HasPlain (entries : Entries) : Prop := ∀ e ∈ entries, e.2.isPlain = true

/-- Names are bound to plain values if all entries are plain. -/
theorem Entries.hasPlain_of_areEntriesPlain {entries : Entries}
    (h : areEntriesPlain entries = true) : entries.HasPlain :=
  fun e he => (areEntriesPlain_iff.mp h e he).2

/-- What is looked up is plain, also where there is nothing. -/
theorem Entries.HasPlain.get {entries : Entries} (h : entries.HasPlain) (k : String) :
    (entries.get k).isPlain = true := by
  unfold Entries.get Entries.get?
  cases hfound : entries.find? fun e => e.1.isKey k with
  | none => rfl
  | some e => exact h e (List.mem_of_find?_eq_some hfound)

/-- One more name may be bound to a plain value. -/
theorem Entries.HasPlain.bind {entries : Entries} (h : entries.HasPlain) (k : String) {v : Value}
    (hv : v.isPlain = true) : (entries.bind k v).HasPlain := by
  induction entries with
  | nil => exact List.forall_mem_singleton.mpr hv
  | cons e entries ih =>
    obtain ⟨he, hentries⟩ := List.forall_mem_cons.mp h
    rw [Entries.bind]
    split
    · exact List.forall_mem_cons.mpr ⟨hv, hentries⟩
    · exact List.forall_mem_cons.mpr ⟨he, ih hentries⟩

/-- Entries stay plain when a legal name is bound to a plain value. -/
theorem Entries.areEntriesPlain_bind {entries : Entries} (h : areEntriesPlain entries = true)
    {k : String} (hk : isLegalText k = true) {v : Value} (hv : v.isPlain = true) :
    areEntriesPlain (entries.bind k v) = true := by
  induction entries with
  | nil => exact areEntriesPlain_iff.mpr (List.forall_mem_singleton.mpr ⟨hk, hv⟩)
  | cons e entries ih =>
    obtain ⟨he, hentries⟩ := Bool.and_eq_true_iff.mp h
    rw [Entries.bind]
    split
    · refine Bool.and_eq_true_iff.mpr ⟨Bool.and_eq_true_iff.mpr ⟨?_, hv⟩, hentries⟩
      exact (Bool.and_eq_true_iff.mp he).1
    · exact Bool.and_eq_true_iff.mpr ⟨he, ih hentries⟩

/-- The items of a plain value are plain: its parts, its keys or its characters. -/
theorem Value.isPlain_of_items? {v : Value} (h : v.isPlain = true) {items : List Value}
    (hitems : v.items? = some items) : ∀ item ∈ items, item.isPlain = true := by
  -- A text has its characters as items, and a mapping its keys.
  cases v with
  | str s =>
    cases hitems
    intro item hitem
    obtain ⟨c, hc, rfl⟩ := List.mem_map.mp hitem
    exact Read.isLegalText_singleton (List.all_eq_true.mp h c hc)
  | list vs =>
    cases hitems
    exact arePlain_iff.mp h
  | tuple vs =>
    cases hitems
    exact arePlain_iff.mp h
  | map entries =>
    cases hitems
    intro item hitem
    obtain ⟨e, he, rfl⟩ := List.mem_map.mp hitem
    exact (areEntriesPlain_iff.mp h e he).1
  | undefined | bool | int | float | loop | operation => exact nomatch hitems
  | bytes | parts | set | moment | duration | zone | type | node | record | run | object =>
    exact nomatch h

/-- Of the members that values can have, plain data has the operations of loops alone. -/
theorem Value.member?_of_isPlain {v : Value} (h : v.isPlain = true) {name : String} {m : Value}
    (hm : v.member? name = some m) : ∃ state, v = .loop state ∧ state.member? name = some m := by
  unfold Value.member? at hm
  split at hm
  · cases hm
  · cases v with
    | loop state => exact ⟨state, rfl, hm⟩
    | undefined | bool | int | float | str | list | tuple | map | operation => exact nomatch hm
    | bytes | parts | set | moment | duration | zone | type | node | record | run | object =>
      exact nomatch h

/-- What a loop tells of itself is plain. -/
theorem LoopState.isPlain_of_member? {state : LoopState} {name : String} {m : Value}
    (h : state.member? name = some m) : m.isPlain = true := by
  unfold LoopState.member? at h
  split at h <;> cases h <;> rfl

/-- Entries stay plain when a plain value is put under a plain key. -/
theorem Entries.areEntriesPlain_put {entries : Entries} (h : areEntriesPlain entries = true)
    {k v : Value} (hk : k.isPlain = true) (hv : v.isPlain = true) :
    areEntriesPlain (entries.put k v) = true := by
  induction entries with
  | nil => exact areEntriesPlain_iff.mpr (List.forall_mem_singleton.mpr ⟨hk, hv⟩)
  | cons e entries ih =>
    obtain ⟨he, hentries⟩ := Bool.and_eq_true_iff.mp h
    rw [Entries.put]
    split
    · refine Bool.and_eq_true_iff.mpr ⟨Bool.and_eq_true_iff.mpr ⟨?_, hv⟩, hentries⟩
      exact (Bool.and_eq_true_iff.mp he).1
    · exact Bool.and_eq_true_iff.mpr ⟨he, ih hentries⟩

/-- Entries that are made of plain pairs are plain, by induction on the pairs. -/
theorem areEntriesPlain_of_entriesOfPairs {done entries : Entries} {index : Nat}
    {items : List Value} (hdone : areEntriesPlain done = true)
    (hitems : ∀ item ∈ items, item.isPlain = true)
    (h : entriesOfPairs done index items = .ok entries) : areEntriesPlain entries = true := by
  induction items generalizing done index with
  | nil =>
    cases h
    exact hdone
  | cons item items ih =>
    obtain ⟨hitem, hitems⟩ := List.forall_mem_cons.mp hitems
    rw [entriesOfPairs] at h
    split at h
    · cases h
    · rename_i k v hpair
      have hparts := Value.isPlain_of_items? hitem hpair
      split at h
      · exact ih (Entries.areEntriesPlain_put hdone (hparts k (by simp)) (hparts v (by simp)))
          hitems h
      · cases h
    · cases h

/-- Plain data that is read as a mapping has plain keys and plain values. -/
theorem Value.areEntriesPlain_of_entriesIfAny {v : Value} (h : v.isPlain = true)
    {entries : Entries} (hentries : v.entriesIfAny = .ok entries) :
    areEntriesPlain entries = true := by
  unfold Value.entriesIfAny at hentries
  split at hentries
  · unfold Value.toEntries at hentries
    split at hentries
    · cases hentries
      exact h
    · exact nomatch h
    · split at hentries
      · -- Nothing that is plain has a member under this name.
        rename_i keys hkeys
        obtain ⟨state, -, hmember⟩ := Value.member?_of_isPlain h hkeys
        cases hmember
      · split at hentries
        · rename_i items hitems
          exact areEntriesPlain_of_entriesOfPairs rfl (Value.isPlain_of_items? h hitems) hentries
        · cases hentries
  · cases hentries
    rfl

end AttrTemplates
