import AttrTemplates.Proofs.Expr.Composition

/-!
# `AttrTemplates.Proofs.Expr.Uncalled`: paths whose last operation is not called

A path of the type `nocall` is searched for as any other, but an operation that its last atom comes to
is not called. Operations are never undefined, so such a search stops at the first operation, also at
one that could not have been called or gives nothing, where the other search goes on.

* `walk_uncalled_cases` compares the two on one attempt: they agree, or the last atom addresses an
  operation;
* `firstDefined_follows` is the comparison of two such searches in general;
* `uncalled_follows` says where `nocall` finds a value and which, given what `path` finds, and that
  without operations at the end the two are one search, failures and notes included.
-/

set_option autoImplicit false

namespace AttrTemplates

/-- Whether a value can be called. -/
def Value.isOperation : Value → Bool
  | .operation .. => true
  | _ => false

namespace Expr

/-! ### Searching -/

section

variable {α : Type} {f g : α → Except Failure Value} {as : List α}

/-- A search finds a value at a number of its list: it is the first that is computed, and all in front
of it leads nowhere. -/
structure FoundAt (f : α → Except Failure Value) (as : List α) (k : Nat) (a : α) (v : Value) :
    Prop where
  item : as[k]? = some a
  value : f a = .ok v
  isDefined : v.isUndefined = false
  before : ∀ b ∈ as.take k, f b = .ok .undefined

/-- What is found at some place is what the search comes to. -/
theorem FoundAt.firstDefined {k : Nat} {a : α} {v : Value} (h : FoundAt f as k a v) :
    firstDefined f as = .ok v := by
  obtain ⟨hk, rfl⟩ := List.getElem?_eq_some_iff.mp h.item
  rw [← List.take_append_drop k as, firstDefined_append, firstDefined_of_forall_undefined h.before,
    List.drop_eq_getElem_cons hk]
  exact firstDefined_cons_of_defined h.value h.isDefined _

/-- One more attempt in front that finds nothing moves the place by one. -/
theorem FoundAt.cons {k : Nat} {a b : α} {v : Value} (h : FoundAt f as k a v)
    (hb : f b = .ok .undefined) : FoundAt f (b :: as) (k + 1) a v where
  item := h.item
  value := h.value
  isDefined := h.isDefined
  before := List.forall_mem_cons.mpr ⟨hb, h.before⟩

/-- A defined value was found somewhere. -/
theorem exists_foundAt {v : Value} (h : firstDefined f as = .ok v) (hv : v.isUndefined = false) :
    ∃ k a, FoundAt f as k a v := by
  induction as with
  | nil =>
    cases h
    cases hv
  | cons a as ih =>
    cases ha : f a with
    | error e =>
      rw [firstDefined_cons_of_error ha] at h
      cases h
    | ok w =>
      -- A value at the front ends the search there; otherwise what was found behind moves by one
      -- place.
      cases hw : w.isUndefined with
      | true =>
        obtain rfl : w = .undefined := by
          cases w <;> first | rfl | cases hw
        rw [firstDefined_cons_of_undefined ha] at h
        obtain ⟨k, b, hfound⟩ := ih h
        exact ⟨k + 1, b, hfound.cons ha⟩
      | false =>
        rw [firstDefined_cons_of_defined ha hw] at h
        cases h
        exact ⟨0, a, rfl, ha, hv, fun b hb => nomatch hb⟩

/-- Two computations that agree, unless the second one has a value: then what the second one finds is
not behind what the first one finds. -/
theorem firstDefined_follows (h : ∀ a ∈ as, g a = f a ∨ ∃ w, g a = .ok w ∧ w.isUndefined = false)
    {k : Nat} {a : α} {v : Value} (hfound : FoundAt f as k a v) :
    ∃ i b w, i ≤ k ∧ FoundAt g as i b w := by
  induction as generalizing k with
  | nil => cases hfound.item
  | cons c as ih =>
    obtain ⟨hc, has⟩ := List.forall_mem_cons.mp h
    -- Either the first attempt comes to the same as before, or it is now the one that finds
    -- something.
    obtain hsame | ⟨w, hw, hdefined⟩ := hc
    · cases k with
      | zero =>
        cases hfound.item
        exact ⟨0, a, v, le_rfl, rfl, hsame.trans hfound.value, hfound.isDefined,
          fun b hb => nomatch hb⟩
      | succ k =>
        obtain ⟨hundefined, hbefore⟩ := List.forall_mem_cons.mp hfound.before
        obtain ⟨i, b, w, hi, hb⟩ :=
          ih has ⟨hfound.item, hfound.value, hfound.isDefined, hbefore⟩
        exact ⟨i + 1, b, w, Nat.succ_le_succ hi, hb.cons (hsame.trans hundefined)⟩
    · exact ⟨0, c, w, Nat.zero_le k, rfl, hw, hdefined, fun b hb => nomatch hb⟩

/-- Searches whose attempts come to the same come to the same. -/
theorem firstDefined_congr (h : ∀ a ∈ as, g a = f a) : firstDefined g as = firstDefined f as := by
  induction as with
  | nil => rfl
  | cons a as ih =>
    obtain ⟨ha, has⟩ := List.forall_mem_cons.mp h
    rw [firstDefined, firstDefined, ha, ih has]

end

/-! ### Following atoms -/

/-- The last of some atoms addresses a member of a value: the atoms in front of it lead to something
that has the member. -/
def LastAddresses (v : Value) (atoms : List String) (member : Value) : Prop :=
  ∃ front last u, atoms = front ++ [last] ∧ walk true v front = .ok u ∧ u.member? last = some member

/-- A step from nothing leads to nothing. -/
theorem step_undefined (atom : String) (call : Bool) :
    step .undefined atom call = .ok .undefined := by
  unfold step Value.member?
  cases atom.startsWith "_" <;> rfl

/-- The last atom is one more step, also from a value that is undefined. -/
theorem walk_concat (callLast : Bool) (v : Value) (front : List String) (last : String) :
    walk callLast v (front ++ [last]) = walk true v front >>= fun u => step u last callLast := by
  cases front with
  | nil => rfl
  | cons a as =>
    rw [walk_append callLast v (List.cons_ne_nil a as) (List.cons_ne_nil last [])]
    refine bind_congr fun u => ?_
    cases u with
    | undefined => exact (step_undefined last callLast).symm
    | _ => rfl

/-- A step is the same whether it may call or not, unless the atom addresses an operation. Then that
is what not calling it comes to; called, it gives what it gives, and nothing if it needs
arguments. -/
theorem step_uncalled_cases (u : Value) (atom : String) : step u atom false = step u atom true ∨
    ∃ name parameters outcome, u.member? atom = some (.operation name parameters outcome) ∧
      step u atom false = .ok (.operation name parameters outcome) ∧
      step u atom true = if acceptsNoArguments parameters then outcome else .ok .undefined := by
  unfold step
  cases u.member? atom with
  | none => exact .inl rfl
  | some member =>
    cases member with
    | operation name parameters outcome => exact .inr ⟨name, parameters, outcome, rfl, rfl, rfl⟩
    | _ => exact .inl rfl

/-- So following atoms comes to the same, unless the last of them addresses an operation. -/
theorem walk_uncalled_cases (v : Value) {atoms : List String} (hne : atoms ≠ []) :
    walk false v atoms = walk true v atoms ∨
    ∃ name parameters outcome, LastAddresses v atoms (.operation name parameters outcome) ∧
      walk false v atoms = .ok (.operation name parameters outcome) ∧
      walk true v atoms
        = if acceptsNoArguments parameters then outcome else .ok .undefined := by
  obtain ⟨front, last, rfl⟩ := (List.eq_nil_or_concat' atoms).resolve_left hne
  rw [walk_concat, walk_concat]
  cases hfront : walk true v front with
  | error e => exact .inl rfl
  | ok u =>
    refine (step_uncalled_cases u last).imp_right ?_
    rintro ⟨name, parameters, outcome, hmember, hleft, hcalled⟩
    exact ⟨name, parameters, outcome, ⟨front, last, u, rfl, hfront, hmember⟩, hleft, hcalled⟩

/-- `nocall` follows `path`. Where `path` finds a value `v`, `nocall` finds one as well, at the same
attempt or at one in front of it. At the same attempt it is `v` itself, or an operation that the last
atom addresses and that gives `v` when it is called without arguments. If no last atom of any
attempt addresses an operation, the two do the same. -/
theorem uncalled_follows (path : String) (contexts : List Value) :
    (∀ v, (resolve path contexts).outcome.1 = .ok v → v.isUndefined = false →
      ∃ i k a b w, (resolve path contexts false).outcome.1 = .ok w ∧ w.isUndefined = false ∧
        FoundAt (fun a => walk true a.1 a.2) (attempts path contexts) k a v ∧
        FoundAt (fun a => walk false a.1 a.2) (attempts path contexts) i b w ∧
        i ≤ k ∧
        (i = k → w = v ∨ ∃ name parameters, w = .operation name parameters (.ok v) ∧
          acceptsNoArguments parameters = true ∧ LastAddresses b.1 b.2 w)) ∧
    ((∀ a ∈ attempts path contexts, ∀ member, LastAddresses a.1 a.2 member →
        member.isOperation = false) →
      resolve path contexts false = resolve path contexts) := by
  have hne : ∀ a ∈ attempts path contexts, a.2 ≠ [] := fun a ha =>
    alternatives_ne_nil (List.mem_product.mp ha).2
  constructor
  · intro v hv hdefined
    rw [resolve_outcome, firstContext_eq_firstDefined] at hv
    obtain ⟨k, a, hfound⟩ := exists_foundAt hv hdefined
    -- At each attempt the two walks agree, or the one without a call gives something that is
    -- defined. So the search without a call cannot go further than the other.
    have hrelated : ∀ a ∈ attempts path contexts, walk false a.1 a.2 = walk true a.1 a.2
        ∨ ∃ w, walk false a.1 a.2 = .ok w ∧ w.isUndefined = false := fun a ha =>
      (walk_uncalled_cases a.1 (hne a ha)).imp_right fun ⟨_, _, _, _, hleft, _⟩ => ⟨_, hleft, rfl⟩
    obtain ⟨i, b, w, hik, hfound'⟩ := firstDefined_follows hrelated hfound
    refine ⟨i, k, a, b, w, ?_, hfound'.isDefined, hfound, hfound', hik, fun heq => ?_⟩
    · rw [resolve_outcome, firstContext_eq_firstDefined]
      exact hfound'.firstDefined
    · obtain rfl : a = b := by
        subst heq
        exact Option.some.inj (hfound.item.symm.trans hfound'.item)
      have hmem : a ∈ attempts path contexts := List.mem_of_getElem? hfound.item
      obtain hsame | ⟨name, parameters, outcome, haddresses, hleft, hcalled⟩ :=
        walk_uncalled_cases a.1 (hne a hmem)
      · have hvalue : walk true a.1 a.2 = .ok w := hsame.symm.trans hfound'.value
        exact .inl (Except.ok.inj (hvalue.symm.trans hfound.value))
      · -- What was called gave `v`, so it was called.
        obtain rfl := Except.ok.inj (hleft.symm.trans hfound'.value)
        have hgives := hcalled.symm.trans hfound.value
        split at hgives
        · rename_i haccepts
          subst hgives
          exact .inr ⟨name, parameters, rfl, haccepts, haddresses⟩
        · cases hgives
          cases hdefined
  · intro hnone
    have hsame : firstContext false (alternatives path) contexts
        = firstContext true (alternatives path) contexts := by
      rw [firstContext_eq_firstDefined, firstContext_eq_firstDefined]
      refine firstDefined_congr fun a ha => ?_
      obtain hsame | ⟨name, parameters, outcome, haddresses, -, -⟩ := walk_uncalled_cases a.1 (hne a ha)
      · exact hsame
      · cases hnone a ha _ haddresses
    unfold resolve
    rw [hsame]

/-- An operation that needs an argument stands in front of a number, and a path to the number alone. -/
theorem uncalled_follows_earlier :
    let o : Value := .object "o" [("f", .operation "f" [.required] (.ok .undefined))] true .none []
    let contexts : List Value := [.map [(.str "o", o), (.str "x", .int 1)]]
    (resolve "o/f | x" contexts).outcome.1 = .ok (.int 1) ∧
      (∃ w, (resolve "o/f | x" contexts false).outcome.1 = .ok w ∧ w.isUndefined = false) ∧
      (∀ a ∈ attempts "x" contexts, ∀ member, LastAddresses a.1 a.2 member →
        member.isOperation = false) ∧
      resolve "x" contexts false = resolve "x" contexts := by
  intro o contexts
  have hvalue : (resolve "o/f | x" contexts).outcome.1 = .ok (.int 1) := by
    with_unfolding_all rfl
  have hplain : ∀ a ∈ attempts "x" contexts, ∀ member, LastAddresses a.1 a.2 member →
      member.isOperation = false := by
    have hattempts : attempts "x" contexts = contexts.map fun c => (c, ["x"]) := by rfl
    rw [hattempts]
    refine List.forall_mem_singleton.mpr ?_
    rintro member ⟨front, last, u, hatoms, hfront, hmember⟩
    -- The only atom is a key of a mapping, which has no members.
    obtain ⟨rfl, hlast⟩ := List.append_inj' (show [] ++ ["x"] = front ++ [last] from hatoms) rfl
    obtain rfl : Value.map _ = u := Except.ok.inj hfront
    unfold Value.member? at hmember
    split at hmember <;> cases hmember
  obtain ⟨i, k, a, b, w, hw, hdefined, -⟩ :=
    (uncalled_follows "o/f | x" contexts).1 (.int 1) hvalue rfl
  exact ⟨hvalue, ⟨w, hw, hdefined⟩, hplain, (uncalled_follows "x" contexts).2 hplain⟩

end Expr

end AttrTemplates
