import AttrTemplates.Proofs.Xml.Unprefixed

/-!
# `AttrTemplates.Proofs.Xml.Fresh`: prefixes that are made up are free

A prefix is made up by counting on until one is found that means nothing yet. The scope has
finitely many bindings and the prefixes tried are all different, so one more try than there are
bindings is enough: `newBinding_isFree`. A declaration of a free prefix hides nothing, so every
prefix that has a meaning keeps it, which is `Scope.uri?_declaring`.
-/

set_option autoImplicit false

namespace AttrTemplates.Xml

/-- The prefix with a number. -/
def numberedPrefix (n : Nat) : String := "ns" ++ toString n

/-- Prefixes of different numbers are different. -/
theorem numberedPrefix_injective : Function.Injective numberedPrefix := by
  intro m n h
  have hdigits : Nat.toDigits 10 m = Nat.toDigits 10 n := by
    have hlist := congrArg String.toList h
    simpa [numberedPrefix, Nat.toList_repr] using hlist
  -- The number can be read back from its digits.
  rw [← Nat.ofDigitChars_ten_toDigits (n := m), hdigits, Nat.ofDigitChars_ten_toDigits]

/-- None of the usual prefixes is one with a number. -/
theorem ne_numberedPrefix_of_usual {uri p : String} (h : usualPrefixes.lookup uri = some p)
    (n : Nat) : p ≠ numberedPrefix n := by
  have hmem : p ∈ usualPrefixes.map Prod.snd := by
    rw [List.lookup_eq_some_iff] at h
    obtain ⟨front, behind, hsplit, -⟩ := h
    rw [hsplit]
    simp
  have hhead : ∀ q ∈ usualPrefixes.map Prod.snd, q.toList.head? ≠ some 'n' := by decide
  rintro rfl
  exact hhead _ hmem (by simp [numberedPrefix])

/-- Prefixes are tried until one is free. `taken` has all those that are not, among the ones that
may still be tried. -/
theorem freshPrefix_isFree (scope : Scope) (fuel : Nat) (p : String) (made : Prefixes)
    (taken : List String) (hfuel : taken.length < fuel) (hp : ∀ n, made ≤ n → p ≠ numberedPrefix n)
    (hfirst : (scope.binding? (some p)).isSome → p ∈ taken)
    (hnumbered : ∀ n, made ≤ n → (scope.binding? (some (numberedPrefix n))).isSome →
      numberedPrefix n ∈ taken) :
    scope.binding? (some (freshPrefix scope fuel p made).1) = none := by
  induction fuel generalizing p made taken with
  | zero => exact absurd hfuel (Nat.not_lt_zero _)
  | succ fuel ih =>
    unfold freshPrefix
    split
    · rename_i hfree
      exact Option.isNone_iff_eq_none.mp hfree
    · rename_i htaken
      have hmem : p ∈ taken := hfirst (by simpa [Option.isSome_iff_ne_none] using htaken)
      -- What has been tried is not tried again, so one place fewer is taken.
      refine ih (numberedPrefix made) (made + 1) (taken.erase p) ?_ ?_ ?_ ?_
      · rw [List.length_erase_of_mem hmem]
        have hpos := List.length_pos_of_mem hmem
        omega
      · rintro n hn heq
        obtain rfl := numberedPrefix_injective heq
        exact Nat.not_succ_le_self made hn
      · intro hbound
        exact (List.mem_erase_of_ne (hp made (Nat.le_refl _)).symm).mpr
          (hnumbered made (Nat.le_refl _) hbound)
      · intro n hn hbound
        have hle : made ≤ n := Nat.le_of_succ_le hn
        exact (List.mem_erase_of_ne (hp n hle).symm).mpr (hnumbered n hle hbound)

/-- The prefix of a new binding means nothing yet. -/
theorem newBinding_isFree (scope : Scope) (uri : String) (made : Prefixes) :
    ∃ p, (newBinding scope none uri made).1 = ⟨some p, uri⟩ ∧ scope.binding? (some p) = none := by
  let taken := scope.candidates.filterMap (·.nsPrefix)
  -- Fewer prefixes are taken than are tried, so one that is tried is free.
  have hlength : taken.length < scope.size + 1 := by
    have hcandidates : scope.candidates.length ≤ scope.size := by
      cases scope with
      | nil => exact Nat.le_refl _
      | cons f outer =>
        simp only [Scope.candidates, Scope.size, Frame.bindings, List.flatMap_cons,
          List.length_append]
        omega
    exact Nat.lt_succ_of_le (Nat.le_trans (List.length_filterMap_le _ _) hcandidates)
  have hmem : ∀ p, (scope.binding? (some p)).isSome → p ∈ taken := by
    intro p hp
    obtain ⟨b, hb⟩ := Option.isSome_iff_exists.mp hp
    rw [Scope.binding?_eq_find?] at hb
    refine List.mem_filterMap.mpr ⟨b, List.mem_of_find?_eq_some hb, ?_⟩
    simpa using List.find?_some hb
  have hwished : (none <|> usualPrefixes.lookup uri) = usualPrefixes.lookup uri := rfl
  unfold newBinding
  rw [hwished]
  cases husual : usualPrefixes.lookup uri with
  | some p =>
    exact ⟨_, rfl, freshPrefix_isFree scope _ p made taken hlength
      (fun n _ => ne_numberedPrefix_of_usual husual n) (hmem p) fun n _ => hmem _⟩
  | none =>
    refine ⟨_, rfl, freshPrefix_isFree scope _ (numberedPrefix made) (made + 1) taken hlength
      (fun n hn heq => ?_) (hmem _) fun n _ => hmem _⟩
    obtain rfl := numberedPrefix_injective heq
    exact Nat.not_succ_le_self made hn

/-- A prefix with a meaning is bound. -/
theorem Scope.binding?_of_uri? {scope : Scope} {p : Option String} {uri : String}
    (h : scope.uri? p = some uri) : (scope.binding? p).isSome = true := by
  obtain ⟨f, hf, hdeclared⟩ := List.exists_of_findSome?_eq_some h
  obtain ⟨b, hb, -⟩ := Option.map_eq_some_iff.mp hdeclared
  have hmem : b ∈ scope.candidates := by
    have hmem := List.mem_of_find?_eq_some hb
    cases scope with
    | nil => cases hf
    | cons g outer =>
      rcases List.mem_cons.mp hf with rfl | hf
      · exact List.mem_append_left _ hmem
      · exact List.mem_append_right _ (List.mem_flatMap.mpr ⟨f, hf, List.mem_append_left _ hmem⟩)
  rw [Scope.binding?_eq_find?, List.find?_isSome]
  exact ⟨b, hmem, by simpa using List.find?_some hb⟩

/-- A declaration of a free prefix takes no meaning away. -/
theorem Scope.uri?_declaring {t : Tag} {outer : Scope} {b : Binding} {p : Option String}
    {uri : String} (hfree : Scope.binding? (t.frame :: outer) b.nsPrefix = none)
    (h : Scope.uri? (t.frame :: outer) p = some uri) :
    Scope.uri? (({ t with declarations := t.declarations ++ [b] } : Tag).frame :: outer) p
      = some uri := by
  have hne : b.nsPrefix ≠ p := by
    rintro rfl
    have hbound := Scope.binding?_of_uri? h
    rw [hfree] at hbound
    cases hbound
  have hnone : declared? [b] p = none := by
    simp [declared?, hne]
  rw [Scope.uri?_cons] at h ⊢
  unfold Tag.frame at h ⊢
  rw [declared?_append, hnone, Option.or_none]
  exact h

end AttrTemplates.Xml
