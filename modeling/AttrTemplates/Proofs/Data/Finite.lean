import AttrTemplates.Data.Yaml.Document
import AttrTemplates.Proofs.Data.Confined

/-!
# `AttrTemplates.Proofs.Data.Finite`: data with an end

In YAML an alias may stand inside the very collection that it names. The collection then lies in
itself, and as values are trees, no value stands for it. `Yaml.isFinite` tells whether a text is
free of such aliases. An alias under the merge key of the mapping it names is not among them: it
asks for what is there anyway, and is left out when the mapping is read.

What is taken out of finite nodes is finite. That is shown here for the entries of a mapping, merges
included (`yields_merged`). `Yields` is the judgment for it: it says what goes wrong in a step, as
`Confined` does, and what is true of the value otherwise.
-/

set_option autoImplicit false

namespace AttrTemplates.Data

variable {α β : Type} {kinds : List FailureKind}

/-! ### Steps and their values -/

/-- A step is confined, and the value that it gives is as `P` says. -/
structure Yields (kinds : List FailureKind) (P : α → Prop) (r : Except Fault α) : Prop where
  confined : Confined kinds r
  holds (a : α) : r = .ok a → P a

/-- A value that is at hand. -/
theorem yields_ok {P : α → Prop} {a : α} (h : P a) : Yields kinds P (.ok a) :=
  ⟨confined_ok a, fun _ ha => by cases ha; exact h⟩

/-- Data that are turned down give no value. -/
theorem yields_malformed {P : α → Prop} : Yields kinds P (.error .malformed) :=
  ⟨confined_malformed, nofun⟩

/-- What is made of a value, whatever the value is. -/
theorem Confined.yields_map {P : β → Prop} {r : Except Fault α} {f : α → β}
    (hr : Confined kinds r) (h : ∀ a, P (f a)) : Yields kinds P (r.map f) where
  confined := hr.map f
  holds b hb := by
    cases r with
    | error e => cases hb
    | ok a =>
      cases hb
      exact h a

/-- Behind a step it can be relied on what is true of its value. -/
theorem Yields.confined_bind {P : α → Prop} {r : Except Fault α} {next : α → Except Fault β}
    (hr : Yields kinds P r) (hnext : ∀ a, P a → Confined kinds (next a)) :
    Confined kinds (r >>= next) :=
  hr.confined.bind_of_ok fun a ha => hnext a (hr.holds a ha)

/-- Two steps in sequence. -/
theorem Yields.bind {P : α → Prop} {Q : β → Prop} {r : Except Fault α}
    {next : α → Except Fault β} (hr : Yields kinds P r)
    (hnext : ∀ a, P a → Yields kinds Q (next a)) : Yields kinds Q (r >>= next) where
  confined := hr.confined_bind fun a ha => (hnext a ha).confined
  holds b h := by
    cases r with
    | error e => cases h
    | ok a => exact (hnext a (hr.holds a rfl)).holds b h

/-- The same step for every member of a list. -/
theorem Yields.mapM {P : β → Prop} {read : α → Except Fault β} {as : List α}
    (h : ∀ a ∈ as, Yields kinds P (read a)) : Yields kinds (∀ b ∈ ·, P b) (as.mapM read) := by
  induction as with
  | nil => exact yields_ok nofun
  | cons a as ih =>
    obtain ⟨ha, has⟩ := List.forall_mem_cons.mp h
    rw [List.mapM_cons]
    exact ha.bind fun b hb => (ih has).bind fun bs hbs =>
      yields_ok (List.forall_mem_cons.mpr ⟨hb, hbs⟩)

namespace Yaml

/-! ### Nodes that lie in themselves -/

namespace Tree

mutual

/-- Whether nothing in a node lies in itself. -/
def isFinite : Tree → Bool
  | scalar .. => true
  | sequence _ items => areFinite items
  | mapping _ entries => areEntriesFinite entries
  | around _ => false

/-- Whether nothing in any of some nodes lies in itself. -/
def areFinite : List Tree → Bool
  | [] => true
  | t :: ts => t.isFinite && areFinite ts

/-- Whether nothing in the keys and values of entries lies in itself. -/
def areEntriesFinite : List (Tree × Tree) → Bool
  | [] => true
  | (k, v) :: es => (k.isFinite && v.isFinite) && areEntriesFinite es

end

/-- Nodes are finite if each of them is. -/
theorem areFinite_iff {ts : List Tree} : areFinite ts = true ↔ ∀ t ∈ ts, t.isFinite = true := by
  induction ts with
  | nil => simp [areFinite]
  | cons t ts ih => simp [areFinite, ih]

/-- Nodes in two parts are finite if both parts are. -/
theorem areFinite_append {ts ts' : List Tree} :
    areFinite (ts ++ ts') = true ↔ areFinite ts = true ∧ areFinite ts' = true := by
  simp only [areFinite_iff, List.forall_mem_append]

/-- The same for any number of parts. -/
theorem areFinite_flatten {tss : List (List Tree)} :
    areFinite tss.flatten = true ↔ ∀ ts ∈ tss, areFinite ts = true := by
  simp only [areFinite_iff, List.forall_mem_flatten]

/-- Entries are finite if the key and the value of each of them are. -/
theorem areEntriesFinite_iff {es : List (Tree × Tree)} :
    areEntriesFinite es = true ↔ ∀ e ∈ es, e.1.isFinite = true ∧ e.2.isFinite = true := by
  induction es with
  | nil => simp [areEntriesFinite]
  | cons e es ih => simp [areEntriesFinite, ih]

/-- Entries in two parts are finite if both parts are. -/
theorem areEntriesFinite_append {es es' : List (Tree × Tree)} :
    areEntriesFinite (es ++ es') = true
      ↔ areEntriesFinite es = true ∧ areEntriesFinite es' = true := by
  simp only [areEntriesFinite_iff, List.forall_mem_append]

/-- Only the kind of a key is ever changed. -/
theorem isFinite_asKey (t : Tree) : t.asKey.isFinite = t.isFinite := by
  unfold asKey
  split <;> rfl

end Tree

/-- Whether nothing in a text of YAML lies in itself. Texts that are not well formed have no nodes
of which it could be said. -/
def isFinite (s : String) : Bool :=
  match tree s.toList with
  | .ok (some t) => t.isFinite
  | _ => true

/-! ### Merged entries -/

namespace Tree

mutual

/-- The entries of a finite mapping are finite, be they its own or merged into it. -/
theorem yields_merged : (entries : List (Tree × Tree)) → areEntriesFinite entries = true →
    Yields kinds (fun p => areEntriesFinite p.1 = true ∧ areEntriesFinite p.2 = true)
      (merged entries)
  | [], _ => yields_ok ⟨rfl, rfl⟩
  | (k, v) :: es, h => by
    simp only [areEntriesFinite, Bool.and_eq_true] at h
    obtain ⟨⟨hk, hv⟩, hes⟩ := h
    have hothers := yields_merged es hes
    unfold merged
    split
    · refine (yields_toMerge v hv).bind fun here hhere => hothers.bind fun p hp => ?_
      exact yields_ok ⟨areEntriesFinite_append.mpr ⟨hhere, hp.1⟩, hp.2⟩
    · refine hothers.bind fun p hp => yields_ok ⟨hp.1, ?_⟩
      simp [areEntriesFinite, isFinite_asKey, hk, hv, hp.2]

/-- So are those that a finite node under the merge key contributes. -/
theorem yields_toMerge : (t : Tree) → t.isFinite = true →
    Yields kinds (areEntriesFinite · = true) t.toMerge
  | scalar .., _ => yields_malformed
  | around _, h => nomatch h
  | mapping _ entries, h => by
    unfold toMerge
    exact (yields_merged entries h).bind fun p hp => yields_ok (areEntriesFinite_append.mpr hp)
  | sequence _ items, h => by
    unfold toMerge
    exact yields_toMergeAll items h

/-- So are those of several mappings. -/
theorem yields_toMergeAll : (ts : List Tree) → areFinite ts = true →
    Yields kinds (areEntriesFinite · = true) (toMergeAll ts)
  | [], _ => yields_ok rfl
  | t :: ts, h => by
    simp only [areFinite, Bool.and_eq_true] at h
    obtain ⟨ht, hts⟩ := h
    cases t with
    | mapping _ entries =>
      unfold toMergeAll
      refine (yields_merged entries ht).bind fun p hp => ?_
      refine (yields_toMergeAll ts hts).bind fun later hlater => yields_ok ?_
      exact areEntriesFinite_append.mpr ⟨hlater, areEntriesFinite_append.mpr hp⟩
    | around _ => cases ht
    | scalar | sequence => exact yields_malformed

end

end Tree

end Yaml

end AttrTemplates.Data
