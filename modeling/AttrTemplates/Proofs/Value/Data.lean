import AttrTemplates.Value.Member
import AttrTemplates.Value.Shown

/-!
# `AttrTemplates.Proofs.Value.Data`: data

Data here means what the built-in types hold: nothing, truth values, numbers, texts, bytes, types,
collections and mappings of data, and the states of loops. Unlike plain data it may hold any text,
also one that no document may. Of the integers in it a test is required; `isLongInteger` gives the
one that matters, since integers may be too long to be written.

* `Value.isDataWith` says that a value is data with integers that pass a test. What data contains is
  data (`Entries.get_isDataWith`, `member?_of_isDataWith`);
* `Value.isTooLong_eq_false`: data without long integers can be written.
-/

set_option autoImplicit false

namespace AttrTemplates

section

variable (fits : Int → Bool)

mutual

/-- Whether a value is data, and all its integers fit. The state of a loop holds the numbers that
its operations give. -/
def Value.isDataWith : Value → Bool
  | .undefined | .bool _ | .float _ | .str _ | .bytes _ | .type => true
  | .int n => fits n
  | .list items | .tuple items | .set items => areDataWith items
  | .parts _ items => arePartsDataWith items
  | .map entries => areEntriesDataWith entries
  | .loop state => fits state.index && fits (state.index + 1) && fits state.length
  | _ => false

/-- Whether some values are data with integers that fit. -/
def areDataWith : List Value → Bool
  | [] => true
  | v :: vs => v.isDataWith && areDataWith vs

/-- Whether the places of a tuple with names hold data with integers that fit. -/
def arePartsDataWith : List (String × Value) → Bool
  | [] => true
  | (_, v) :: vs => v.isDataWith && arePartsDataWith vs

/-- Whether the keys and the values of some entries are data with integers that fit. -/
def areEntriesDataWith : List (Value × Value) → Bool
  | [] => true
  | (k, v) :: rest => k.isDataWith && v.isDataWith && areEntriesDataWith rest

end

end

/-- Whether a value is data. -/
def Value.isData (v : Value) : Bool := v.isDataWith fun _ => true

/-- Whether a value is data in which no integer is too long to be written. -/
def Value.isShortData (v : Value) : Bool := v.isDataWith fun n => !isLongInteger n

/-- Whether a value is a mapping. -/
def Value.isMapping : Value → Bool
  | .map _ => true
  | _ => false

section

variable {fits : Int → Bool}

/-- Values in a sequence are data if each of them is. -/
theorem areDataWith_iff {vs : List Value} :
    areDataWith fits vs = true ↔ ∀ v ∈ vs, v.isDataWith fits = true := by
  induction vs with
  | nil => simp [areDataWith]
  | cons v vs ih => simp [areDataWith, ih]

/-- Named values are data if each of them is. -/
theorem arePartsDataWith_iff {vs : List (String × Value)} :
    arePartsDataWith fits vs = true ↔ ∀ v ∈ vs.map (·.2), v.isDataWith fits = true := by
  induction vs with
  | nil => simp [arePartsDataWith]
  | cons v vs ih =>
    rw [arePartsDataWith, Bool.and_eq_true, ih, List.map_cons, List.forall_mem_cons]

/-- Entries are data if each key and each value is. -/
theorem areEntriesDataWith_iff {entries : Entries} : areEntriesDataWith fits entries = true ↔
    ∀ e ∈ entries, e.1.isDataWith fits = true ∧ e.2.isDataWith fits = true := by
  induction entries with
  | nil => simp [areEntriesDataWith]
  | cons e entries ih =>
    rw [areEntriesDataWith, Bool.and_eq_true, Bool.and_eq_true, ih, List.forall_mem_cons]

/-! ### What data contains -/

/-- What is looked up is data, also where there is nothing. -/
theorem Entries.get_isDataWith {entries : Entries} (h : areEntriesDataWith fits entries = true)
    (k : String) : (entries.get k).isDataWith fits = true := by
  unfold Entries.get Entries.get?
  cases hfound : entries.find? fun e => e.1.isKey k with
  | none => rfl
  | some e => exact (areEntriesDataWith_iff.mp h e (List.mem_of_find?_eq_some hfound)).2

/-- Of all data only the states of loops have members, and these give truth values and numbers. -/
theorem Value.member?_of_isDataWith {v : Value} (h : v.isDataWith fits = true) {name : String}
    {m : Value} (hm : v.member? name = some m) :
    (∃ state, v = .loop state)
      ∧ ∃ w, m = .operation name [] (.ok w) ∧ w.isDataWith fits = true := by
  unfold Value.member? at hm
  split at hm
  · cases hm
  · cases v with
    | loop state =>
      obtain ⟨hboth, hlength⟩ := Bool.and_eq_true_iff.mp h
      obtain ⟨hindex, hnumber⟩ := Bool.and_eq_true_iff.mp hboth
      change state.member? name = some m at hm
      refine ⟨⟨state, rfl⟩, ?_⟩
      -- The index, the number and the length may have to fit, the rest are truth values.
      unfold LoopState.member? at hm
      split at hm <;> cases hm
      · exact ⟨_, rfl, hindex⟩
      · exact ⟨_, rfl, hnumber⟩
      · exact ⟨_, rfl, hlength⟩
      · exact ⟨_, rfl, rfl⟩
      · exact ⟨_, rfl, rfl⟩
      · exact ⟨_, rfl, rfl⟩
      · exact ⟨_, rfl, rfl⟩
    | moment | duration | zone | node | record | run | operation | object => exact nomatch h
    | _ => exact nomatch hm

end

/-! ### Writing data -/

section

variable {fits : Int → Bool}

mutual

/-- Data can be written, if the integers that fit can. -/
theorem Value.isTooLong_eq_false (hfits : ∀ n, fits n = true → isLongInteger n = false) :
    (v : Value) → v.isDataWith fits = true → v.isTooLong = false
  | .int n, h => hfits n h
  | .loop state, h => by
    obtain ⟨hboth, hlength⟩ := Bool.and_eq_true_iff.mp h
    rw [Value.isTooLong, hfits _ (Bool.and_eq_true_iff.mp hboth).2, hfits _ hlength]
    rfl
  | .list items, h => anyTooLong_eq_false hfits items h
  | .tuple items, h => anyTooLong_eq_false hfits items h
  | .set items, h => anyTooLong_eq_false hfits items h
  | .map entries, h => anyEntryTooLong_eq_false hfits entries h
  | .undefined, _ | .bool _, _ | .float _, _ | .str _, _ | .bytes _, _ | .type, _ => rfl
  | .parts _ _, _ => rfl

/-- In data with integers that fit, none is too long. -/
theorem anyTooLong_eq_false (hfits : ∀ n, fits n = true → isLongInteger n = false) :
    (vs : List Value) → areDataWith fits vs = true → anyTooLong vs = false
  | [], _ => rfl
  | v :: vs, h => by
    obtain ⟨hv, hvs⟩ := Bool.and_eq_true_iff.mp h
    rw [anyTooLong, v.isTooLong_eq_false hfits hv, anyTooLong_eq_false hfits vs hvs]
    rfl

/-- The same for entries. -/
theorem anyEntryTooLong_eq_false (hfits : ∀ n, fits n = true → isLongInteger n = false) :
    (entries : List (Value × Value)) →
    areEntriesDataWith fits entries = true → anyEntryTooLong entries = false
  | [], _ => rfl
  | (k, v) :: rest, h => by
    obtain ⟨hentry, hrest⟩ := Bool.and_eq_true_iff.mp h
    obtain ⟨hk, hv⟩ := Bool.and_eq_true_iff.mp hentry
    rw [anyEntryTooLong, k.isTooLong_eq_false hfits hk, v.isTooLong_eq_false hfits hv,
      anyEntryTooLong_eq_false hfits rest hrest]
    rfl

end

end

end AttrTemplates
