import AttrTemplates.Proofs.Template.Inserted
import AttrTemplates.Proofs.Template.Omitted
import AttrTemplates.Proofs.Template.Spliced

/-!
# `AttrTemplates.Proofs.Template.Exchanged`: `replace` as `content` without the tag

There are two ways to put a value where an element is. `replace` puts it there at once. `content`
puts it into the element, and `omit-tag` then leaves what is inside the element in its place. On
the second way the items are settled twice and walked in between, the text at their front is taken
off the element and put back, and an undefined value empties the element before its tag goes away.

`replaced_is_opened_content` says that both ways lead to the same content of the parent and to the
same global context, as long as nothing that is inserted is marked. What the element was otherwise,
its name and its other attributes, makes no difference.

Names are compared by their namespaces and local parts, and declarations are left aside. On the way
through the element a name may change its prefix, and `opened_content_takes_prefix` is such a case.
-/

set_option autoImplicit false

namespace AttrTemplates

open Xml Run

section

variable {permitted : Call → Bool} {ev : Expr.Evaluator} {walk : Walk} {site : Site}
  {waiting : List (String × String)} {raw : String} {s s' : RunState} {reply : Reply}

/-! ### The two ways -/

/-- Directives that do not wait are passed over on the way to others. -/
theorem handleDirectives_pass {ds ds' : List Directive}
    (h : ∀ d ∈ ds, waiting.lookup d.tag = none) :
    handleDirectives permitted ev walk site waiting (ds ++ ds')
      = handleDirectives permitted ev walk site waiting ds' := by
  induction ds with
  | nil => rfl
  | cons d ds ih =>
    obtain ⟨hd, hds⟩ := List.forall_mem_cons.mp h
    unfold handleDirectives at *
    rw [List.cons_append, List.map_cons, handleTags, hd]
    exact ih hds

/-- An element with no directive but `replace` answers with the items. -/
theorem permittedWalk_of_replaced {fuel : Nat}
    (hsingle : ∀ d : Directive, site.element.tag.waiting.lookup d.tag
      = if d = .replace then some raw else none)
    (h : (permittedWalk permitted ev (fuel + 1) site).Gives s reply s') :
    ∃ items notes, inserted ev site.locals s.globals raw = some (items, notes) ∧
      s' = s.noting (site.announcement .replace raw :: notes) ∧
      reply = .becomes (site.without .replace).element items := by
  obtain ⟨progress, left, s₁, hdirectives, hrest⟩ := permittedWalk_succ_gives_iff.mp h
  obtain ⟨-, reply', hreplace, hprogress⟩ :=
    (handleDirectives_single_gives_iff hsingle (Directive.mem_all _)).mp hdirectives
  obtain ⟨items, notes, hitems, rfl, rfl⟩ := replace_gives_iff.mp hreplace
  cases hprogress
  obtain ⟨rfl, rfl⟩ := hrest
  exact ⟨items, notes, hitems, RunState.noting_noting .., rfl⟩

/-- An element that is filled and opened answers with the items as its content, if they are not
marked: they are settled in it, and walking them leaves them alone. -/
theorem permittedWalk_of_filled_opened {fuel : Nat}
    (hpair : ∀ d : Directive, site.element.tag.waiting.lookup d.tag
      = if d = .content then some raw else if d = .omitTag then some "" else none)
    (hunmarked : ∀ {items notes}, inserted ev site.locals s.globals raw = some (items, notes) →
      ∀ item ∈ items, item.marks = [])
    (h : (permittedWalk permitted ev (fuel + 1) site).Gives s reply s') :
    ∃ items notes left, inserted ev site.locals s.globals raw = some (items, notes) ∧
      unprefixedList left.children = items.flatMap (Item.standing s.inCopy site.element) ∧
      s'.globals = s.globals ∧ reply = .opens left := by
  obtain ⟨progress, left, s₁, hdirectives, hrest⟩ := permittedWalk_succ_gives_iff.mp h
  -- The directives in front of `content` do not wait, and neither do those behind it but the last.
  have hall : Directive.all
      = [.define, .condition, .repetition] ++ .content :: [.replace, .attributes, .omitTag] := rfl
  rw [hall, handleDirectives_pass (by simp [hpair]), handleDirectives_cons_gives_iff] at hdirectives
  obtain ⟨hnone, -⟩ | ⟨raw', filled, s₂, hraw, -, hcontent, hbehind⟩ := hdirectives
  · rw [hpair] at hnone
    cases hnone
  obtain rfl : raw = raw' := by
    rw [hpair] at hraw
    exact Option.some.inj hraw
  obtain ⟨items, notes, s₀, children, hitems, hempty, hchildren, rfl⟩ :=
    content_gives_iff.mp hcontent
  have hunmarked := hunmarked hitems
  obtain ⟨hnodes, -, hsettled⟩ := settleAll_gives hchildren
  have hcalm : (s.noting (site.announcement .content raw :: notes)).SameButMade s₂ := by
    rw [RunState.noting_noting] at hempty
    exact (emptyOut_gives hempty).trans hsettled
  have hlast : ∀ d : Directive, (site.element.tag.waiting.filter fun w =>
      w.1 != Directive.content.tag).lookup d.tag = if d = .omitTag then some "" else none := by
    intro d
    rw [lookup_filter_ne, hpair]
    cases d <;> rfl
  obtain ⟨-, opened, hhandle, hprogress⟩ :=
    (handleDirectives_single_gives_iff hlast (by decide)).mp hbehind
  have homit : (omitTag ev (permittedWalk permitted ev fuel) "" _).Gives _ opened s₁ := hhandle
  obtain ⟨out, notes', hout, homit⟩ := omitTag_gives_iff.mp homit
  obtain ⟨rfl, rfl⟩ : out = true ∧ notes' = [] := by
    cases hout
    exact ⟨rfl, rfl⟩
  obtain ⟨walked, hwalked, rfl⟩ := homit
  cases hprogress
  obtain ⟨rfl, rfl⟩ := hrest
  -- There are no marks in the items, so the walk over the new children changes nothing.
  have hmarks : marksList children = [] := by
    rw [marksList_of_settleAll hchildren, flatMap_marks_resolve (inserted_not_itself hitems),
      List.flatMap_eq_nil_iff]
    exact hunmarked
  obtain ⟨-, rfl, rfl⟩ := (walkNodes_of_unmarked_iff hmarks).mp hwalked
  refine ⟨items, notes, _, hitems, ?_, ?_, rfl⟩
  · rw [hnodes, (emptyOut_gives hempty).calm.inCopy]
    exact flatMap_standing_of_not_itself (inserted_not_itself hitems) _ _ _
  · exact hcalm.calm.globals

end

/-! ### An element in its parent -/

/-- An element somewhere below the root is processed where it is, and the nodes of its reply come
between what is before it and what is behind it. -/
theorem processAt_element_gives {walk : Walk} {locals : Entries} {root found : Element}
    {scope scope' : Scope} {path : List Nat} {i : Nat} {s s' : RunState} {placed : Placed}
    {tail tail' : List Node}
    (hfound : Sight.descend? ⟨root.toNode, tail, scope⟩ (path ++ [i])
      = some ⟨found.toNode, tail', scope'⟩)
    (h : (processAt walk locals root scope (path ++ [i])).Gives s (some placed) s') :
    ∃ (parent : Element) (tail'' : List Node) (outer : Scope) (before after : List Node)
        (reply : Reply) (s₁ : RunState) (nodes : List Node),
      Sight.descend? ⟨root.toNode, tail, scope⟩ path = some ⟨parent.toNode, tail'', outer⟩ ∧
      childAt? parent.children i = some ⟨before, found.toNode, after⟩ ∧
      (walk ⟨found, scope', locals⟩).Gives s reply s₁ ∧
      (reply.place scope').Gives s₁ nodes s' ∧
      placed.root = root.replaceAt path { parent with children := before ++ nodes ++ after } := by
  -- By induction on the way down. The last step is to the element itself.
  induction path generalizing root scope tail placed with
  | nil =>
    rw [List.nil_append] at hfound h
    rw [descend?_cons] at hfound
    obtain ⟨⟨before, node, after⟩, hchild, hnode⟩ := Option.bind_eq_some_iff.mp hfound
    simp only [Sight.descend?, Option.some.injEq, Sight.mk.injEq] at hnode
    obtain ⟨rfl, -, rfl⟩ := hnode
    unfold processAt at h
    simp only [hchild, Element.toNode, Node.element?, gives_bind_iff] at h
    obtain ⟨reply, s₁, hreply, nodes, s₂, hplace, h⟩ := h
    obtain ⟨hplaced, rfl⟩ := gives_pure_iff.mp h
    cases hplaced
    exact ⟨root, tail, scope, before, after, reply, s₁, nodes, rfl, hchild, hreply, hplace, rfl⟩
  | cons j path ih =>
    obtain ⟨front, child, back, inner, hchild, hinner, hroot⟩ :=
      processAt_cons_gives (List.append_ne_nil_of_right_ne_nil path (List.cons_ne_nil i [])) h
    rw [List.cons_append, descend?_cons, hchild] at hfound
    obtain ⟨parent, tail'', outer, before, after, reply, s₁, nodes, hparent, hhole, hreply, hplace,
      hinnerRoot⟩ := ih hfound hinner
    refine ⟨parent, tail'', outer, before, after, reply, s₁, nodes, ?_, hhole, hreply, hplace, ?_⟩
    · rw [descend?_cons, hchild]
      exact hparent
    · rw [hroot, hinnerRoot, replaceAt_cons hchild]

/-- What a found element is replaced with is in the place of a child of what is around it. -/
theorem replaceAt_append_child {root found new parent : Element} {tail tail' : List Node}
    {scope outer : Scope} {path : List Nat} {i : Nat} {before after : List Node}
    (hparent : Sight.descend? ⟨root.toNode, tail, scope⟩ path = some ⟨parent.toNode, tail', outer⟩)
    (hchild : childAt? parent.children i = some ⟨before, found.toNode, after⟩) :
    root.replaceAt (path ++ [i]) new
      = root.replaceAt path { parent with children := before ++ new.toNode :: after } := by
  induction path generalizing root tail scope with
  | nil =>
    simp only [Sight.descend?, Option.some.injEq, Sight.mk.injEq] at hparent
    obtain rfl := Element.toNode_inj.mp hparent.1
    exact replaceAt_cons hchild [] new
  | cons j path ih =>
    rw [descend?_cons] at hparent
    obtain ⟨⟨front, node, back⟩, hhole, hparent⟩ := Option.bind_eq_some_iff.mp hparent
    obtain ⟨child, rfl⟩ := element_of_descend? hparent
    rw [List.cons_append, replaceAt_cons hhole, replaceAt_cons hhole, ih hparent]

/-- A later replacement in the same place is the one that counts. -/
theorem replaceAt_replaceAt {root parent parent' new : Element} {tail tail' : List Node}
    {scope outer : Scope} {path : List Nat}
    (hparent : Sight.descend? ⟨root.toNode, tail, scope⟩ path
      = some ⟨parent.toNode, tail', outer⟩) :
    (root.replaceAt path parent').replaceAt path new = root.replaceAt path new := by
  induction path generalizing root tail scope with
  | nil => rfl
  | cons j path ih =>
    rw [descend?_cons] at hparent
    obtain ⟨⟨front, node, back⟩, hhole, hparent⟩ := Option.bind_eq_some_iff.mp hparent
    obtain ⟨child, rfl⟩ := element_of_descend? hparent
    rw [replaceAt_cons hhole, replaceAt_cons hhole,
      replaceAt_cons (childAt?_replace hhole rfl), ih hparent]

/-- A replaced element is its content without the tag. Take an element with a parent whose only
directive is `replace`, and in the same place one whose only directives are `content` with the same
argument and `omit-tag` without any, in whatever order. If nothing that is inserted is marked and
both are processed, then the parent has the same content afterwards, adjacent texts being one, names
being compared by namespace and local part, and declarations being left aside. The rest of the tree
and the global context are the same as well, and this context is as it was. -/
theorem replaced_is_opened_content {ev : Expr.Evaluator} {fuel fuel' : Nat} {locals : Entries}
    {root replaced filled : Element} {scope inner : Scope} {path : List Nat} {i : Nat}
    {raw : String} {tail : List Node} {s s₁ s₂ : RunState} {placed₁ placed₂ : Placed}
    (hreplaced : Sight.descend? ⟨root.toNode, [], scope⟩ (path ++ [i])
      = some ⟨replaced.toNode, tail, inner⟩)
    (hreplace : replaced.tag.waiting = [(Directive.replace.tag, raw)])
    (hfill : filled.tag.waiting.Perm
      [(Directive.content.tag, raw), (Directive.omitTag.tag, "")])
    (hunmarked : ∀ {items notes}, inserted ev locals s.globals raw = some (items, notes) →
      ∀ item ∈ items, item.marks = [])
    (hrun₁ : (processAt (standardWalk ev fuel) locals root scope (path ++ [i])).Gives s
      (some placed₁) s₁)
    (hrun₂ : (processAt (standardWalk ev fuel') locals (root.replaceAt (path ++ [i]) filled) scope
      (path ++ [i])).Gives s (some placed₂) s₂) :
    ∃ (parent : Element) (behind : List Node) (outer : Scope)
      (before after nodes₁ nodes₂ : List Node),
      Sight.descend? ⟨root.toNode, [], scope⟩ path = some ⟨parent.toNode, behind, outer⟩ ∧
      childAt? parent.children i = some ⟨before, replaced.toNode, after⟩ ∧
      placed₁.root
        = root.replaceAt path { parent with children := before ++ nodes₁ ++ after } ∧
      placed₂.root
        = root.replaceAt path { parent with children := before ++ nodes₂ ++ after } ∧
      RunsAlike (before ++ nodes₁ ++ after) (before ++ nodes₂ ++ after) ∧
      s₁.globals = s.globals ∧ s₂.globals = s.globals := by
  have hone : ∀ d : Directive, replaced.tag.waiting.lookup d.tag
      = if d = .replace then some raw else none := by
    intro d
    rw [hreplace]
    cases d <;> rfl
  have hpair : ∀ d : Directive, filled.tag.waiting.lookup d.tag
      = if d = .content then some raw else if d = .omitTag then some "" else none := by
    intro d
    rw [← lookup_of_perm hfill.symm
      (by decide : [Directive.content.tag, Directive.omitTag.tag].Nodup)]
    cases d <;> rfl
  obtain ⟨parent, behind, outer, before, after, reply₁, t₁, nodes₁, hparent, hchild, hreply₁,
    hplace₁, hroot₁⟩ := processAt_element_gives hreplaced hrun₁
  obtain ⟨parent', behind', outer', before', after', reply₂, t₂, nodes₂, hparent', hchild', hreply₂,
    hplace₂, hroot₂⟩ := processAt_element_gives (descend?_replaceAt filled hreplaced) hrun₂
  -- The two are in the same place, since the other element is put where the first one was.
  rw [replaceAt_append_child hparent hchild] at hparent' hroot₂
  rw [descend?_replaceAt _ hparent] at hparent'
  obtain ⟨hsame, rfl, rfl⟩ := Sight.mk.injEq .. ▸ Option.some.inj hparent'
  obtain rfl := Element.toNode_inj.mp hsame
  rw [childAt?_replace hchild rfl] at hchild'
  obtain ⟨rfl, -, rfl⟩ := Hole.mk.injEq .. ▸ Option.some.inj hchild'
  rw [replaceAt_replaceAt hparent] at hroot₂
  refine ⟨parent, behind, outer, before, after, nodes₁, nodes₂, hparent, hchild, hroot₁, hroot₂, ?_⟩
  rw [standardWalk_eq] at hreply₁ hreply₂
  obtain ⟨n, rfl⟩ : ∃ n, fuel = n + 1 := by
    cases fuel with
    | zero => exact (gives_throw_iff.mp hreply₁).elim
    | succ n => exact ⟨n, rfl⟩
  obtain ⟨m, rfl⟩ : ∃ m, fuel' = m + 1 := by
    cases fuel' with
    | zero => exact (gives_throw_iff.mp hreply₂).elim
    | succ m => exact ⟨m, rfl⟩
  obtain ⟨items, notes, hitems, rfl, rfl⟩ := permittedWalk_of_replaced hone hreply₁
  obtain ⟨items', notes', left, hitems', hopened, hglobals, rfl⟩ :=
    permittedWalk_of_filled_opened hpair hunmarked hreply₂
  obtain ⟨rfl, rfl⟩ : items' = items ∧ notes' = notes := by
    have heq := hitems'.symm.trans hitems
    cases heq
    exact ⟨rfl, rfl⟩
  obtain ⟨hnodes₁, -, hs₁⟩ := Reply.place_gives hplace₁
  obtain ⟨hnodes₂, -, hs₂⟩ := Reply.place_gives hplace₂
  refine ⟨?_, hs₁.calm.globals, hs₂.calm.globals.trans hglobals⟩
  have hnodes : RunsAlike nodes₁ nodes₂ := by
    unfold RunsAlike
    rw [hnodes₁, hnodes₂]
    show runs (items'.flatMap _) = runs (spread (unprefixedList left.children))
    rw [runs_spread, hopened]
    exact congrArg runs (flatMap_standing_of_not_itself (inserted_not_itself hitems) _ _ _)
  have hsame : ∀ ns, RunsAlike ns ns := fun _ => rfl
  exact ((hsame before).append hnodes).append (hsame after)

/-- An element that `replace` replaces. -/
def replacedWord : Element :=
  ⟨⟨.plain "b", [standardAttribute "replace" "structure x"], [], some 1⟩, [.text "two"]⟩

/-- The same element with `content` and `omit-tag` on it. -/
def filledWord : Element where
  tag := ⟨.plain "b", [standardAttribute "omit-tag" "", standardAttribute "content" "structure x"],
    [], some 1⟩
  children := [.text "two"]

/-- A paragraph with the replaced element between two texts. -/
def wordParagraph : Element where
  tag := ⟨.plain "p", [], [⟨some "tal", standardUri⟩], some 1⟩
  children := [.text "one ", replacedWord.toNode, .text " four"]

/-- A state in which `x` is a list of two elements. -/
def withWords : RunState where
  globals := [(.str "x", .list [.node (.alone (.element ⟨.plain "i", [], [], none⟩ [.text "or"])),
    .node (.alone (.element ⟨.plain "em", [], [], none⟩ [.text "three"]))])]
  events := []
  made := 0
  inCopy := false

/-- A word in a paragraph that is replaced, and the same word filled and opened. -/
theorem replaced_is_opened_content_words :
    ∃ (placed₁ placed₂ : Placed) (s₁ s₂ : RunState) (nodes₁ nodes₂ : List Node),
      (processAt (standardWalk .standard 4) [] wordParagraph [] ([] ++ [0])).Gives withWords
        (some placed₁) s₁ ∧
      (processAt (standardWalk .standard 4) [] (wordParagraph.replaceAt ([] ++ [0]) filledWord) []
        ([] ++ [0])).Gives withWords (some placed₂) s₂ ∧
      placed₁.root.children = [.text "one "] ++ nodes₁ ++ [.text " four"] ∧
      placed₂.root.children = [.text "one "] ++ nodes₂ ++ [.text " four"] ∧
      RunsAlike placed₁.root.children placed₂.root.children ∧ s₁.globals = s₂.globals := by
  have hplaced₁ : ((processAt (standardWalk .standard 4) [] wordParagraph [] ([] ++ [0])).run.run
      withWords).1.toOption.join.isSome = true := by decide +kernel
  have hplaced₂ : ((processAt (standardWalk .standard 4) []
      (wordParagraph.replaceAt ([] ++ [0]) filledWord) [] ([] ++ [0])).run.run
      withWords).1.toOption.join.isSome = true := by decide +kernel
  have hinserted : (inserted .standard [] withWords.globals "structure x").map
      (fun p => p.1.all fun item => item.marks.isEmpty) = some true := by decide +kernel
  obtain ⟨placed₁, s₁, hrun₁⟩ := exists_gives_some hplaced₁
  obtain ⟨placed₂, s₂, hrun₂⟩ := exists_gives_some hplaced₂
  have hunmarked : ∀ {items notes},
      inserted .standard [] withWords.globals "structure x" = some (items, notes) →
        ∀ item ∈ items, item.marks = [] := by
    intro items notes hitems item hitem
    rw [hitems] at hinserted
    exact List.isEmpty_iff.mp (List.all_eq_true.mp (Option.some.inj hinserted) item hitem)
  have hreplaced : Sight.descend? ⟨wordParagraph.toNode, [], []⟩ ([] ++ [0])
      = some ⟨replacedWord.toNode, [.text " four"], [wordParagraph.tag.frame]⟩ := rfl
  have hfill : filledWord.tag.waiting.Perm
      [(Directive.content.tag, "structure x"), (Directive.omitTag.tag, "")] := by decide
  obtain ⟨parent, behind, outer, before, after, nodes₁, nodes₂, hparent, hchild, hroot₁, hroot₂,
    halike, hglobals₁, hglobals₂⟩ :=
    replaced_is_opened_content hreplaced (by decide) hfill hunmarked hrun₁ hrun₂
  -- The parent is the paragraph itself, and the element its first child that is no text.
  simp only [Sight.descend?, Option.some.injEq, Sight.mk.injEq] at hparent
  obtain rfl := Element.toNode_inj.mp hparent.1
  have hhole := hchild.symm.trans (show childAt? wordParagraph.children 0 = some _ from rfl)
  simp only [Option.some.injEq, Hole.mk.injEq] at hhole
  obtain ⟨rfl, -, rfl⟩ := hhole
  refine ⟨placed₁, placed₂, s₁, s₂, nodes₁, nodes₂, hrun₁, hrun₂, ?_, ?_, ?_,
    hglobals₁.trans hglobals₂.symm⟩
  · rw [hroot₁, Element.replaceAt]
  · rw [hroot₂, Element.replaceAt]
  · rw [hroot₁, hroot₂]
    exact halike

/-- An element with some directives that declares a prefix. -/
def prefixedWord (directives : List Attribute) : Element :=
  ⟨⟨.plain "b", directives, [⟨some "q", "urn:1"⟩], some 1⟩, []⟩

/-- The element that `replace` replaces. -/
def replacedPrefix : Element := prefixedWord [standardAttribute "replace" "structure x"]

/-- The element that `content` fills, and whose tag `omit-tag` takes away. -/
def filledPrefix : Element :=
  prefixedWord [standardAttribute "content" "structure x", standardAttribute "omit-tag" ""]

/-- A paragraph with the replaced element alone. -/
def prefixedParagraph : Element where
  tag := ⟨.plain "p", [], [⟨some "tal", standardUri⟩], some 1⟩
  children := [replacedPrefix.toNode]

/-- A state in which `x` is markup with another prefix for the namespace that the element declares
one for. -/
def withPrefixedMarkup : RunState where
  globals := [(.str "x", .str "<p:i xmlns:p='urn:1'/>")]
  events := []
  made := 0
  inCopy := false

/-- On its way through the element, inserted markup takes the prefix that is declared there. What
replaces the element keeps its own, so that the parent is left with other names as they are
written. -/
theorem opened_content_takes_prefix :
    replacedPrefix.tag.waiting = [(Directive.replace.tag, "structure x")] ∧
    filledPrefix.tag.waiting
      = [(Directive.content.tag, "structure x"), (Directive.omitTag.tag, "")] ∧
    (inserted .standard [] withPrefixedMarkup.globals "structure x").map
      (fun p => p.1.all fun item => item.marks.isEmpty) = some true ∧
    ∃ (placed₁ placed₂ : Placed) (s₁ s₂ : RunState),
      (processAt (standardWalk .standard 4) [] prefixedParagraph [] [0]).Gives withPrefixedMarkup
        (some placed₁) s₁ ∧
      (processAt (standardWalk .standard 4) [] (prefixedParagraph.replaceAt [0] filledPrefix) []
        [0]).Gives withPrefixedMarkup (some placed₂) s₂ ∧
      (tagsIn placed₁.root.children).map (·.name.written) = ["p:i"] ∧
      (tagsIn placed₂.root.children).map (·.name.written) = ["q:i"] ∧
      runs placed₁.root.children ≠ runs placed₂.root.children := by
  have hplaced₁ : ((processAt (standardWalk .standard 4) [] prefixedParagraph [] [0]).run.run
      withPrefixedMarkup).1.toOption.map
        (·.map fun placed => (tagsIn placed.root.children).map (·.name.written))
      = some (some ["p:i"]) := by decide +kernel
  have hplaced₂ : ((processAt (standardWalk .standard 4) []
      (prefixedParagraph.replaceAt [0] filledPrefix) [] [0]).run.run
      withPrefixedMarkup).1.toOption.map
        (·.map fun placed => (tagsIn placed.root.children).map (·.name.written))
      = some (some ["q:i"]) := by decide +kernel
  -- Both runs have been decided; what they show is now said of what they give.
  obtain ⟨placed₁, s₁, hrun₁, hnames₁⟩ := exists_gives_some_of_shown hplaced₁
  obtain ⟨placed₂, s₂, hrun₂, hnames₂⟩ := exists_gives_some_of_shown hplaced₂
  refine ⟨by decide, by decide, by decide +kernel, placed₁, placed₂, s₁, s₂, hrun₁, hrun₂, hnames₁,
    hnames₂, runs_ne_of_tagsIn_ne fun htags => ?_⟩
  rw [htags, hnames₂] at hnames₁
  exact absurd hnames₁ (by decide)

end AttrTemplates
