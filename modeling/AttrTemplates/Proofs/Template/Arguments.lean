import AttrTemplates.Proofs.Expr.Names
import AttrTemplates.Template.Argument

/-!
# `AttrTemplates.Proofs.Template.Arguments`: what is in the arguments of directives

The name in an argument is a word of the characters that it may have, and the expression in it is a
piece of it. So what is known of every character of an argument is known of the expression as well.
With a list of arguments it is nearly the same: doubled semicolons come out as one.

* `wordAndRest_word` and `wordAndRest_of_mem` tell which words are names, `afterKeyword_self` and
  `afterKeyword_of_ne` which are keywords;
* `NamedExpression.forall_name` tells what a name is;
* `forall_arguments` passes a property of characters on to the arguments in a list, and
  `forall_expression` of `Definition`, `NamedExpression` and `Insertion` to their expressions.
-/

set_option autoImplicit false

namespace AttrTemplates

/-- A character of a variable name is one of an atom, and no colon. -/
theorem isAtomChar_of_isVariableChar {c : Char} (h : isVariableChar c = true) :
    Expr.isAtomChar c = true ∧ c ≠ ':' := by
  rcases (Bool.or_eq_true_iff.mp h : Text.isWord c = true ∨ (c == '-') = true) with hword | hhyphen
  · refine ⟨Expr.isAtomChar_of_isWord hword, ?_⟩
    rintro rfl
    exact absurd hword (by decide)
  · rw [beq_iff_eq.mp hhyphen]
    decide

/-- The characters of variables are no blanks. -/
theorem isBlank_of_isVariableChar {c : Char} (h : isVariableChar c = true) :
    Text.isBlank c = false :=
  (Expr.isAtomChar_iff.mp (isAtomChar_of_isVariableChar h).1).1

section

variable {P : Char → Prop} {p : Char → Bool}

/-! ### Lists of arguments -/

/-- A property of all characters is one of those that are left when semicolons are marked. -/
theorem forall_markDoubled {cs : List Char} (h : ∀ c ∈ cs, P c) :
    ∀ c ∈ Expr.markDoubled cs, c = Expr.mark ∨ P c := by
  fun_induction Expr.markDoubled cs with
  | case1 cs ih =>
    intro c hc
    rcases List.mem_cons.mp hc with rfl | hc
    · exact .inl rfl
    · exact ih (fun c hc => h c (List.mem_cons_of_mem _ (List.mem_cons_of_mem _ hc))) c hc
  | case2 d cs _ ih =>
    intro c hc
    rcases List.mem_cons.mp hc with rfl | hc
    · exact .inr (h c List.mem_cons_self)
    · exact ih (fun c hc => h c (List.mem_cons_of_mem _ hc)) c hc
  | case3 => exact fun c hc => nomatch hc

/-- The arguments in a list have no characters but those of the list, and semicolons. -/
theorem forall_arguments {raw : String} (h : ∀ c ∈ raw.toList, P c) (hsemicolon : P ';') :
    ∀ argument ∈ Expr.arguments raw, ∀ c ∈ argument.toList, P c := by
  intro argument hargument c hc
  obtain ⟨cs, hcs, rfl⟩ := List.mem_map.mp hargument
  obtain ⟨piece, hpiece, rfl⟩ := List.mem_map.mp hcs
  obtain ⟨whole, hwhole, rfl⟩ := List.mem_map.mp (List.mem_filter.mp hpiece).1
  rw [String.toList_ofList] at hc
  obtain ⟨d, hd, rfl⟩ := List.mem_map.mp hc
  have hmarked := forall_markDoubled h d (Text.mem_of_mem_splitAt hwhole (Text.mem_of_mem_trim hd))
  -- A mark is a semicolon in the end.
  by_cases hmark : d = Expr.mark
  · rwa [if_pos hmark]
  · rw [if_neg hmark]
    exact hmarked.resolve_left hmark

/-! ### Words and expressions -/

/-- A word and what follows it are both in the text, and the word is not empty. -/
theorem wordAndRest_eq_some {cs word rest : List Char} (h : wordAndRest p cs = some (word, rest)) :
    word ≠ [] ∧ (∀ c ∈ word, p c = true) ∧ ∀ c ∈ rest, c ∈ cs := by
  unfold wordAndRest at h
  dsimp only at h
  split at h
  · cases h
  · rename_i hsome
    cases h
    refine ⟨fun hnil => hsome ?_, List.all_eq_true.mp List.all_takeWhile, fun c hc => ?_⟩
    · rw [hnil]
      rfl
    · exact (List.dropWhile_sublist p).subset (Text.mem_of_mem_trimStart hc)

section

variable {word expr : List Char}

/-- A word ends at a space, and what is behind the space is the rest. -/
theorem wordAndRest_word (hne : word ≠ []) (hword : ∀ c ∈ word, p c = true) (hspace : p ' ' = false)
    (hexpr : Text.IsTrimmed expr) : wordAndRest p (word ++ ' ' :: expr) = some (word, expr) := by
  have hblank : Text.isBlank ' ' = true := by decide
  have hbehind : Text.trimStart (' ' :: expr) = expr := by
    rw [Text.trimStart, List.dropWhile_cons_of_pos hblank,
      Text.dropWhile_isBlank_of_head? hexpr.head]
  have htake : (word ++ ' ' :: expr).takeWhile p = word := by
    rw [List.takeWhile_append_of_pos hword]
    simp [hspace]
  have hdrop : (word ++ ' ' :: expr).dropWhile p = ' ' :: expr := by
    rw [List.dropWhile_append_of_pos hword]
    simp [hspace]
  simp [wordAndRest, htake, hdrop, hbehind, hne, hexpr.ne_nil]

/-- A word that ends at another character than white space is none. -/
theorem wordAndRest_of_mem {c : Char} (hblank : ∀ c ∈ word, Text.isBlank c = false) (hc : c ∈ word)
    (hpc : p c = false) (rest : List Char) : wordAndRest p (word ++ rest) = none := by
  have hstop : word.dropWhile p ≠ [] := by
    intro hnil
    rw [List.dropWhile_eq_nil_iff.mp hnil c hc] at hpc
    cases hpc
  obtain ⟨d, ds, hdrop⟩ := List.exists_cons_of_ne_nil hstop
  have hd : Text.isBlank d = false := by
    refine hblank d ((List.dropWhile_sublist p).subset ?_)
    rw [hdrop]
    exact List.mem_cons_self
  have hall : (word ++ rest).dropWhile p = d :: (ds ++ rest) := by
    simp [List.dropWhile_append, hdrop]
  simp [wordAndRest, hall, Text.trimStart, hd]

/-- A keyword with an expression behind it is read as that. -/
theorem afterKeyword_self {keyword : String} (hne : keyword.toList ≠ [])
    (halpha : ∀ c ∈ keyword.toList, c.isAlpha = true) (hexpr : Text.IsTrimmed expr) :
    afterKeyword keyword (keyword.toList ++ ' ' :: expr) = some expr := by
  rw [afterKeyword, wordAndRest_word hne halpha (by decide) hexpr]
  exact if_pos rfl

/-- No other word is a keyword, not even one that begins with it. -/
theorem afterKeyword_of_ne {keyword : String} (hblank : ∀ c ∈ word, Text.isBlank c = false)
    (hne : word ≠ keyword.toList) (hexpr : Text.IsTrimmed expr) :
    afterKeyword keyword (word ++ ' ' :: expr) = none := by
  unfold afterKeyword
  by_cases hnil : word = []
  · simp [hnil, wordAndRest, show Char.isAlpha ' ' = false by decide]
  · by_cases halpha : ∀ c ∈ word, c.isAlpha = true
    · rw [wordAndRest_word hnil halpha (by decide) hexpr]
      exact if_neg hne
    · push Not at halpha
      obtain ⟨c, hc, hcalpha⟩ := halpha
      rw [wordAndRest_of_mem hblank hc (by simpa using hcalpha)]

end

/-- The name in an argument is a word of the characters that it may have. -/
theorem NamedExpression.forall_name {argument : String} {a : NamedExpression}
    (h : NamedExpression.parse? p argument = some a) :
    a.name.toList ≠ [] ∧ ∀ c ∈ a.name.toList, p c = true := by
  obtain ⟨⟨word, rest⟩, hword, rfl⟩ := Option.map_eq_some_iff.mp h
  obtain ⟨hne, hchars, -⟩ := wordAndRest_eq_some hword
  rw [String.toList_ofList]
  exact ⟨hne, hchars⟩

/-- The expression of a named one has its characters from the argument. -/
theorem NamedExpression.forall_expression {argument : String} {a : NamedExpression}
    (h : ∀ c ∈ argument.toList, P c) (hparse : NamedExpression.parse? p argument = some a) :
    ∀ c ∈ a.expression.toList, P c := by
  obtain ⟨⟨word, rest⟩, hword, rfl⟩ := Option.map_eq_some_iff.mp hparse
  obtain ⟨-, -, hrest⟩ := wordAndRest_eq_some hword
  intro c hc
  rw [String.toList_ofList] at hc
  exact h c (Text.mem_of_mem_trim (hrest c hc))

/-- What follows a keyword stood there. -/
theorem mem_of_afterKeyword {keyword : String} {cs rest : List Char}
    (h : afterKeyword keyword cs = some rest) : ∀ c ∈ rest, c ∈ cs := by
  unfold afterKeyword at h
  split at h
  · rename_i word behind hword
    split at h
    · cases h
      exact (wordAndRest_eq_some hword).2.2
    · cases h
  · cases h

/-- So has the expression of a definition. -/
theorem Definition.forall_expression {argument : String} {d : Definition}
    (h : ∀ c ∈ argument.toList, P c) (hparse : Definition.parse? argument = some d) :
    ∀ c ∈ d.expression.toList, P c := by
  -- With a keyword or without, it is a word and an expression that were read.
  have hread : ∃ (isGlobal : Bool) (cs : List Char), (∀ c ∈ cs, c ∈ Text.trim argument.toList) ∧
      (wordAndRest isVariableChar cs).map (fun x =>
        (⟨isGlobal, String.ofList x.1, String.ofList x.2⟩ : Definition)) = some d := by
    unfold Definition.parse? at hparse
    simp only [Option.orElse_eq_orElse, Option.orElse_eq_or, Option.or_eq_some_iff] at hparse
    rcases hparse with hlocal | ⟨-, hglobal | ⟨-, hplain⟩⟩
    · obtain ⟨cs, hcs, hd⟩ := Option.bind_eq_some_iff.mp hlocal
      exact ⟨false, cs, mem_of_afterKeyword hcs, hd⟩
    · obtain ⟨cs, hcs, hd⟩ := Option.bind_eq_some_iff.mp hglobal
      exact ⟨true, cs, mem_of_afterKeyword hcs, hd⟩
    · exact ⟨false, _, fun c hc => hc, hplain⟩
  obtain ⟨isGlobal, cs, hcs, hd⟩ := hread
  obtain ⟨⟨word, rest⟩, hword, rfl⟩ := Option.map_eq_some_iff.mp hd
  obtain ⟨-, -, hrest⟩ := wordAndRest_eq_some hword
  intro c hc
  rw [String.toList_ofList] at hc
  exact h c (Text.mem_of_mem_trim (hcs c (hrest c hc)))

/-- So has the expression of an insertion. -/
theorem Insertion.forall_expression {argument : String} {a : Insertion}
    (h : ∀ c ∈ argument.toList, P c) (hparse : Insertion.parse? argument = some a) :
    ∀ c ∈ a.expression.toList, P c := by
  -- Whether there is a keyword or not, the expression is part of the trimmed argument.
  have hmem : ∀ c ∈ a.expression.toList, c ∈ Text.trim argument.toList := by
    unfold Insertion.parse? at hparse
    dsimp only at hparse
    split at hparse
    · rename_i rest _ htext
      cases hparse
      rw [String.toList_ofList]
      exact mem_of_afterKeyword htext
    · rename_i rest _ hstructure
      cases hparse
      rw [String.toList_ofList]
      exact mem_of_afterKeyword hstructure
    · split at hparse
      · cases hparse
      · cases hparse
        rw [String.toList_ofList]
        exact fun c hc => hc
  intro c hc
  exact h c (Text.mem_of_mem_trim (hmem c hc))

end

end AttrTemplates
