import AttrTemplates.Proofs.Expr.Lookups

/-!
# `AttrTemplates.Proofs.Expr.Composition`: paths put together

A path that is longer by a slash and more atoms leads where the atoms behind the slash lead from the
value of the path in front of it. This holds wherever a path is cut: behind an operation that was
called, a key or an index, and also next to another slash, since an empty atom is an atom as well.
Only a slash at the very beginning is none that separates, so nothing may be cut off in front of it
and the second part does not begin with one.

* `walk_append` is the law for atoms, by induction on those in front;
* `atoms_append` says that a slash between two texts is one between their atoms;
* `path_composes` puts the two together.
-/

set_option autoImplicit false

namespace AttrTemplates

namespace Expr

/-! ### Following atoms -/

/-- Atoms in a row lead where the later ones lead from the value that the earlier ones lead to. The
earlier ones are called, up to the last of them. -/
theorem walk_append (callLast : Bool) (v : Value) {as bs : List String} (has : as ≠ [])
    (hbs : bs ≠ []) : walk callLast v (as ++ bs) = (do
      let w ← walk true v as
      if w.isUndefined then pure .undefined else walk callLast w bs) := by
  induction as generalizing v with
  | nil => exact (has rfl).elim
  | cons a as ih =>
    cases as with
    | nil =>
      obtain ⟨b, bs, rfl⟩ := List.exists_cons_of_ne_nil hbs
      rfl
    | cons a' as =>
      -- The first step is the same, and what it leads to is either undefined or walked on.
      simp only [List.cons_append, walk, bind_assoc]
      refine bind_congr fun w => ?_
      cases w.isUndefined with
      | true => rfl
      | false => exact ih w (List.cons_ne_nil a' as)

/-- Without contexts or alternatives to choose from, a search is one walk. -/
theorem firstContext_single (callLast : Bool) (as : List String) (c : Value) :
    firstContext callLast [as] [c] = walk callLast c as := by
  simp only [firstContext, firstAlternative]
  cases walk callLast c as with
  | error f => rfl
  | ok v => cases v <;> rfl

/-! ### Paths -/

/-- A slash behind the first character of a path separates atoms. -/
theorem atoms_append {a : List Char} (ha : a ≠ []) {b : List Char} (hb : b.head? ≠ some '/') :
    atoms (a ++ '/' :: b) = atoms a ++ atoms b := by
  -- Where the second path does not begin with a slash it is just split.
  have hbehind : atoms b = (Text.splitAt '/' b).map String.ofList := by
    unfold atoms
    split
    · exact (hb rfl).elim
    · rfl
  obtain ⟨c, cs, rfl⟩ := List.exists_cons_of_ne_nil ha
  rw [hbehind]
  by_cases hc : c = '/'
  · -- The slash that leads is left out on both sides.
    subst hc
    simp only [atoms, List.cons_append, Text.splitAt_append, List.map_append]
  · have hlead : ∀ ds, atoms (c :: ds) = (Text.splitAt '/' (c :: ds)).map String.ofList := by
      intro ds
      simp [atoms, hc]
    rw [List.cons_append, hlead, hlead, ← List.cons_append, Text.splitAt_append, List.map_append]

/-- A path without bars and white space around it is its only alternative. -/
theorem alternatives_of_not_mem {a : String} (ha : Text.trim a.toList = a.toList)
    (hbar : '|' ∉ a.toList) : alternatives a = [atoms a.toList] := by
  unfold alternatives
  rw [ha, Text.splitAt_of_not_mem hbar, List.map_singleton, ha]

/-- A text without slashes is one atom. -/
theorem atoms_of_not_mem {cs : List Char} (h : '/' ∉ cs) : atoms cs = [String.ofList cs] := by
  unfold atoms
  split
  · exact (h List.mem_cons_self).elim
  · dsimp only
    rw [Text.splitAt_of_not_mem h, List.map_singleton]

/-- A path has at least one atom, which may be empty. -/
theorem atoms_ne_nil (path : List Char) : atoms path ≠ [] := by
  simp [atoms, Text.splitAt_ne_nil]

/-- In one context a path without alternatives leads where its atoms lead. -/
theorem resolve_outcome_single {path : String} (hends : Text.trim path.toList = path.toList)
    (hbar : '|' ∉ path.toList) (c : Value) (callLast : Bool) :
    (resolve path [c] callLast).outcome.1 = walk callLast c (atoms path.toList) := by
  rw [resolve_outcome, alternatives_of_not_mem hends hbar, firstContext_single]

/-- The value of a path is the value of its second part in that of its first part, wherever it is
cut. It is undefined if the first part is, and fails if the first part does. So a name that has been
bound to what the first part leads to can stand for it. -/
theorem path_composes {a b : String} (ha : Text.IsTrimmed a.toList)
    (hb : b ≠ "" → Text.IsTrimmed b.toList) (hbara : '|' ∉ a.toList) (hbarb : '|' ∉ b.toList)
    (hslash : b.toList.head? ≠ some '/') (c : Value) (callLast : Bool) :
    (resolve (a ++ "/" ++ b) [c] callLast).outcome.1 = (do
      let v ← (resolve a [c]).outcome.1
      if v.isUndefined then pure .undefined else (resolve b [v] callLast).outcome.1) ∧
    ∀ (n : String) (entries : Entries), n ≠ "" → (∀ ch ∈ n.toList, isAtomChar ch = true) →
      (resolve a [c]).outcome.1 = .ok (entries.get n) →
      (resolve (n ++ "/" ++ b) [.map entries] callLast).outcome.1
        = (resolve (a ++ "/" ++ b) [c] callLast).outcome.1 := by
  have hbtrim : Text.trim b.toList = b.toList := by
    by_cases hempty : b = ""
    · rw [hempty]
      rfl
    · exact (hb hempty).trim_eq
  -- The first part is arbitrary here, since the path behind a name is put together likewise.
  have hcomposes : ∀ {a : String}, Text.IsTrimmed a.toList → '|' ∉ a.toList → ∀ c,
      (resolve (a ++ "/" ++ b) [c] callLast).outcome.1 = (do
        let v ← (resolve a [c]).outcome.1
        if v.isUndefined then pure .undefined else (resolve b [v] callLast).outcome.1) := by
    intro a ha hbara c
    have htext : (a ++ "/" ++ b).toList = a.toList ++ '/' :: b.toList := by simp
    have htrim : Text.trim (a ++ "/" ++ b).toList = (a ++ "/" ++ b).toList := by
      have hslash : Text.IsTrimmed ['/'] := by decide
      have hbehind : Text.IsTrimmed ('/' :: b.toList) :=
        hslash.append fun ch hch => (hb (by rintro rfl; cases hch)).last ch hch
      rw [htext, (ha.append hbehind.last).trim_eq]
    have hbar : '|' ∉ (a ++ "/" ++ b).toList := by
      simp [htext, hbara, hbarb]
    simp only [resolve_outcome_single htrim hbar, resolve_outcome_single ha.trim_eq hbara,
      resolve_outcome_single hbtrim hbarb, htext, atoms_append ha.ne_nil hslash,
      walk_append callLast c (atoms_ne_nil a.toList) (atoms_ne_nil b.toList)]
  refine ⟨hcomposes ha hbara c, fun n entries hn hchars hvalue => ?_⟩
  have hnchar : ∀ ch ∈ n.toList, Text.isBlank ch = false ∧ ch ≠ '/' ∧ ch ≠ '|' :=
    fun ch hch => isAtomChar_iff.mp (hchars ch hch)
  have hntrim : Text.IsTrimmed n.toList :=
    .of_forall (by simpa using hn) fun ch hch => (hnchar ch hch).1
  have hnbar : '|' ∉ n.toList := fun hmem => (hnchar _ hmem).2.2 rfl
  have hname : (resolve n [.map entries]).outcome.1 = .ok (entries.get n) := by
    rw [resolve_outcome_single hntrim.trim_eq hnbar,
      atoms_of_not_mem fun hmem => (hnchar _ hmem).2.1 rfl, String.ofList_toList, walk, step_map]
  rw [hcomposes hntrim hnbar, hcomposes ha hbara, hname, hvalue]

/-- A path that is cut behind an empty atom, at the state of a loop. -/
theorem path_composes_at_loop :
    let c : Value := .map [(.str "xs", .list [.map [(.str "", .loop ⟨0, 3⟩)]])]
    Text.IsTrimmed "/xs/-1/".toList ∧ Text.IsTrimmed "number".toList
      ∧ (resolve "/xs/-1//number" [c]).outcome.1 = .ok (.int 1) := by
  intro c
  have ha : Text.IsTrimmed "/xs/-1/".toList := by decide
  have hb : Text.IsTrimmed "number".toList := by decide
  have hfirst : (resolve "/xs/-1/" [c]).outcome.1 = .ok (.loop ⟨0, 3⟩) := by
    with_unfolding_all rfl
  have hsecond : (resolve "number" [.loop ⟨0, 3⟩]).outcome.1 = .ok (.int 1) := by
    with_unfolding_all rfl
  have hcomposes := (path_composes ha (fun _ => hb) (by decide) (by decide) (by decide) c true).1
  rw [hfirst] at hcomposes
  exact ⟨ha, hb, hcomposes.trans hsecond⟩

end Expr

end AttrTemplates
