import AttrTemplates.Proofs.Expr.Names
import AttrTemplates.Proofs.Template.Nesting
import AttrTemplates.Proofs.Template.Regime
import AttrTemplates.Proofs.Template.Repeated

/-!
# `AttrTemplates.Proofs.Template.Loops`: the states of the loops around an element

Every loop puts the state of its turn beside those of the loops around it, under `repeat` in the
local context of the copy. From there it is handed on to everything inside the copy.

* `Turn.InForce` says that a context has the state of a turn, and `Reaches.inForce` that the context
  of an element has those of all turns it is in;
* `Turn.IsTold` says what the paths to the state lead to;
* `loops_in_force` is the result, for the directives of an element in loops of different names. It
  also says that an element finds the same loops again behind one that is inside it.
-/

set_option autoImplicit false

namespace AttrTemplates

open Xml Run

/-! ### What directives do to the local context -/

section

variable {ev : Expr.Evaluator} {walk : Walk} {s t : RunState}

/-- Definitions leave a name alone that none of them binds in the local context. -/
theorem get?_of_makeDefinitions {n : String} {locals locals' : Entries} {arguments : List String}
    (hother : ∀ argument ∈ arguments, ∀ d, Definition.parse? argument = some d →
      d.isGlobal = false → d.name ≠ n)
    (h : (makeDefinitions ev locals arguments).Gives s locals' t) :
    locals'.get? n = locals.get? n := by
  induction arguments generalizing locals s with
  | nil =>
    obtain ⟨rfl, -⟩ := makeDefinitions_nil_gives_iff.mp h
    rfl
  | cons argument arguments ih =>
    obtain ⟨hfirst, hothers⟩ := List.forall_mem_cons.mp hother
    obtain ⟨d, v, s₁, hparse, -, h⟩ := makeDefinitions_cons_gives_iff.mp h
    -- Only a local definition could bind the name, and this one has another.
    cases hglobal : d.isGlobal with
    | true =>
      rw [hglobal] at h
      exact ih hothers h
    | false =>
      rw [hglobal] at h
      rw [ih hothers h, Entries.get?_bind_of_ne _ _ (hfirst d hparse hglobal).symm]

/-- An argument of `define` that binds no name in the local context that is `n`. -/
theorem ne_of_not_mem_definedNames {n raw : String}
    (h : n ∉ Directive.define.definedNames raw) :
    ∀ argument ∈ Expr.arguments raw, ∀ d, Definition.parse? argument = some d →
      d.isGlobal = false → d.name ≠ n := by
  rintro argument hargument d hparse hlocal rfl
  refine h (List.mem_filterMap.mpr ⟨d, List.mem_filterMap.mpr ⟨argument, hargument, hparse⟩, ?_⟩)
  rw [hlocal]
  rfl

/-- A directive leaves a name in the local context alone that it does not bind there. -/
theorem Directive.get?_of_handle {n : String} {d : Directive} {raw : String} {site : Site}
    {e : Element} {locals : Entries} (hother : n ∉ d.definedNames raw)
    (h : (d.handle ev walk raw site).Gives s (.stays e locals) t) :
    locals.get? n = site.locals.get? n := by
  cases Directive.staysAs_of_handle h with
  | define hmake => exact get?_of_makeDefinitions (ne_of_not_mem_definedNames hother) hmake
  | condition | content | attributes | omitTag => rfl

/-- No directive that waits binds a name in the local context. -/
def LeavesAlone (n : String) (waiting : List (String × String)) : Prop :=
  ∀ raw, waiting.lookup Directive.define.tag = some raw → n ∉ Directive.define.definedNames raw

/-- A name that is left alone is bound by no directive that waits. -/
theorem LeavesAlone.definedNames {n : String} {waiting : List (String × String)}
    (h : LeavesAlone n waiting) {d : Directive} {raw : String}
    (hraw : waiting.lookup d.tag = some raw) : n ∉ d.definedNames raw := by
  cases d with
  | define => exact h raw hraw
  | condition | repetition | content | replace | attributes | omitTag => exact List.not_mem_nil

/-- It is left alone by the others as well when one directive is taken off. -/
theorem LeavesAlone.filter {n : String} {waiting : List (String × String)}
    (h : LeavesAlone n waiting) (d : Directive) :
    LeavesAlone n (waiting.filter fun w => w.1 != d.tag) := by
  intro raw hraw
  rw [lookup_filter_ne] at hraw
  split at hraw
  · cases hraw
  · exact h raw hraw

/-- While directives are handled that do not bind a name, it stands for the same. What is left of
them does not bind it either. -/
theorem get?_of_handleTags {n : String} {ds : List Directive} {site here : Site}
    {waiting left : List (String × String)} (hleaves : LeavesAlone n waiting)
    (h : (handleTags .standard ev walk site waiting (ds.map Directive.tag)).Gives s
      (.on here, left) t) :
    here.locals.get? n = site.locals.get? n ∧ LeavesAlone n left := by
  refine handleTags_keeps (P := fun here left =>
    here.locals.get? n = site.locals.get? n ∧ LeavesAlone n left) ?_ ⟨rfl, hleaves⟩ h
  intro here left d raw e locals s t hP hraw hhandle
  obtain ⟨hsame, hleaves⟩ := hP
  have hlocals := Directive.get?_of_handle (hleaves.definedNames hraw) hhandle
  exact ⟨hlocals.trans hsame, hleaves.filter d⟩

end

/-! ### The contexts of elements -/

/-- An element on which no directive binds the name `repeat` in the local context. -/
def Site.LeavesLoops (a : Site) : Prop := LeavesAlone "repeat" a.element.tag.waiting

section

variable {ev : Expr.Evaluator} {walk : Walk} {a here b : Site} {s t : RunState}

/-- Directives that leave the loops alone keep what is bound to their name. -/
theorem Keeps.get?_repeat {ds : List Directive} {left : List (String × String)}
    (ha : a.LeavesLoops) (h : Keeps ev walk ds a s here left t) :
    here.locals.get? "repeat" = a.locals.get? "repeat" :=
  (get?_of_handleTags ha h).1

/-- So does a call of one directive. -/
theorem Calls.get?_repeat {d : Directive} {raw : String} (ha : a.LeavesLoops)
    (h : Calls ev walk a s d raw here t) :
    here.locals.get? "repeat" = a.locals.get? "repeat" := by
  obtain ⟨-, hkept, -⟩ := h
  have hsame := hkept.get?_repeat ha
  exact hsame

/-- An element that is entered in its place finds the loops that its parent found, whatever stands
before it. -/
theorem Enters.get?_repeat (ha : a.LeavesLoops) (h : Enters ev walk a s none b t) :
    b.locals.get? "repeat" = a.locals.get? "repeat" := by
  cases h with
  | child hkept _ _ =>
    have hsame := hkept.get?_repeat ha
    exact hsame
  | opened hcall _ _ _ =>
    have hsame := hcall.get?_repeat ha
    exact hsame

/-- A context in which the state of a turn is found under `repeat`. -/
def Turn.InForce (turn : Turn) (locals : Entries) : Prop :=
  ∃ loops : Entries, locals.get? "repeat" = some (.map loops) ∧
    loops.get? turn.loop = some (.loop turn.state)

/-- Whether a turn is in force depends on what is bound to the name of the loops. -/
theorem Turn.InForce.congr {turn : Turn} {locals locals' : Entries} (h : turn.InForce locals)
    (hsame : locals'.get? "repeat" = locals.get? "repeat") : turn.InForce locals' := by
  unfold InForce at h ⊢
  rwa [hsame]

/-- The entries of a mapping are its own. -/
theorem Value.entriesIfAny_map (entries : Entries) :
    (Value.map entries).entriesIfAny = .ok entries := by
  cases entries <;> rfl

/-- A copy finds the state of its turn, and those of the turns that the element is in itself, except
for loops of the same name. -/
theorem Enters.inForce {turn : Turn} (ha : a.LeavesLoops) (hname : turn.loop ≠ "repeat")
    (h : Enters ev walk a s (some turn) b t) :
    turn.InForce b.locals ∧
      ∀ other : Turn, other.loop ≠ turn.loop → other.InForce a.locals → other.InForce b.locals := by
  cases h with
  | copied hcall hparse hv htruth hitems hloops hitem hbefore =>
    obtain ⟨-, ⟨outer, inner, houter, hrepeat, hown, hothers⟩, -⟩ :=
      bindsLoop_loopContext hname hloops _ _
    refine ⟨⟨inner, hrepeat, hown⟩, fun other hother hforce => ?_⟩
    obtain ⟨loops, hfound, hstate⟩ := hforce.congr (hcall.get?_repeat ha)
    have hsame : outer = loops := by
      unfold enclosingLoops Entries.get at houter
      rw [hfound, Option.getD_some, Value.entriesIfAny_map] at houter
      exact (Except.ok.inj houter).symm
    exact ⟨inner, hrepeat, by rw [hothers _ hother, hsame, hstate]⟩

/-- The name of a loop is a word of characters for variables. -/
theorem Enters.forall_isVariableChar {turn : Turn} (h : Enters ev walk a s (some turn) b t) :
    turn.loop.toList ≠ [] ∧ ∀ c ∈ turn.loop.toList, isVariableChar c = true := by
  cases h with
  | copied hcall hparse hv htruth hitems hloops hitem hbefore =>
    exact NamedExpression.forall_name hparse

/-- An element finds the states of all turns that it is in, if no two loops have the same name and
nothing on the way binds `repeat`. -/
theorem Reaches.inForce {depth fuel : Nat} {turns : List Turn}
    (h : Reaches ev Site.LeavesLoops depth a s turns fuel b t)
    (hnames : (turns.map Turn.loop).Nodup) (hrepeat : "repeat" ∉ turns.map Turn.loop) :
    ∀ turn ∈ turns, turn.InForce b.locals := by
  -- By induction on the way to the site: each place it enters keeps the turns so far, and may add
  -- one.
  induction h with
  | here => exact fun _ hturn => nomatch hturn
  | @inside turns turn? fuel b c t u h hb henters ih =>
    rw [List.map_append] at hnames hrepeat
    have hbefore := ih (List.nodup_append.mp hnames).1 fun hmem =>
      hrepeat (List.mem_append_left _ hmem)
    cases turn? with
    | none =>
      rw [Option.toList_none, List.append_nil]
      exact fun turn hturn => (hbefore turn hturn).congr (henters.get?_repeat hb)
    | some turn =>
      have hname : turn.loop ≠ "repeat" := fun heq =>
        hrepeat (List.mem_append_right _ (List.mem_singleton.mpr heq.symm))
      obtain ⟨hown, hothers⟩ := henters.inForce hb hname
      refine List.forall_mem_append.mpr ⟨fun other hother => ?_, List.forall_mem_singleton.mpr hown⟩
      -- The new turn has another name than those before, so theirs are told as before.
      refine hothers other (fun heq => ?_) (hbefore other hother)
      exact (List.nodup_append.mp hnames).2.2 _ (List.mem_map_of_mem hother) _
        (List.mem_singleton.mpr rfl) heq

/-- The names of all turns that were reached are names of variables. -/
theorem Reaches.forall_isVariableChar {depth fuel : Nat} {turns : List Turn}
    {through : Site → Prop} (h : Reaches ev through depth a s turns fuel b t) :
    ∀ turn ∈ turns, turn.loop.toList ≠ [] ∧ ∀ c ∈ turn.loop.toList, isVariableChar c = true := by
  induction h with
  | here => exact fun _ hturn => nomatch hturn
  | @inside turns turn? fuel b c t u h hb henters ih =>
    refine List.forall_mem_append.mpr ⟨ih, fun turn hturn => ?_⟩
    have hsome : turn? = some turn := Option.mem_toList.mp hturn
    rw [hsome] at henters
    exact henters.forall_isVariableChar

end

/-! ### What paths tell of a turn -/

/-- The path to something that the state of a turn tells. -/
def Turn.path (turn : Turn) (operation : String) : String :=
  "repeat/" ++ turn.loop ++ "/" ++ operation

/-- The paths to the state of a turn tell which one it is, and leave no notes. -/
structure Turn.IsTold (turn : Turn) (locals globals : Entries) : Prop where
  index : Expr.Evaluator.standard.valueIn locals globals (turn.path "index")
    = (.ok (.int turn.index), [])
  number : Expr.Evaluator.standard.valueIn locals globals (turn.path "number")
    = (.ok (.int (turn.index + 1)), [])
  length : Expr.Evaluator.standard.valueIn locals globals (turn.path "length")
    = (.ok (.int turn.length), [])
  start : Expr.Evaluator.standard.valueIn locals globals (turn.path "start")
    = (.ok (.bool (turn.index == 0)), [])
  last : Expr.Evaluator.standard.valueIn locals globals (turn.path "end")
    = (.ok (.bool (turn.index + 1 == turn.length)), [])
  even : Expr.Evaluator.standard.valueIn locals globals (turn.path "even")
    = (.ok (.bool (turn.index % 2 == 0)), [])
  odd : Expr.Evaluator.standard.valueIn locals globals (turn.path "odd")
    = (.ok (.bool (turn.index % 2 == 1)), [])

/-- What the state of a turn tells is found by the path to it, whatever the global context holds. -/
theorem Turn.InForce.valueIn_path {turn : Turn} {locals : Entries} (h : turn.InForce locals)
    (hloop : turn.loop.toList ≠ [] ∧ ∀ c ∈ turn.loop.toList, isVariableChar c = true)
    {operation : String} {v : Value} (hoperation : operation.toList.all isVariableChar = true)
    (hpublic : operation.startsWith "_" = false)
    (hmember : turn.state.member? operation = some (.operation operation [] (.ok v)))
    (hv : v.isUndefined = false) (globals : Entries) :
    Expr.Evaluator.standard.valueIn locals globals (turn.path operation) = (.ok v, []) := by
  obtain ⟨loops, hrepeat, hstate⟩ := h
  -- The path is three atoms, and it is followed step by step: to `repeat` in the local context, to
  -- the loop, and to the operation, which is called there.
  have hpath : turn.path operation = String.ofList (Expr.joinAtoms
      ["repeat".toList, turn.loop.toList, operation.toList]) := by
    refine String.toList_injective ?_
    unfold path
    simp [Expr.joinAtoms]
  have hstep : Expr.step (.loop turn.state) operation true = .ok v := by
    unfold Expr.step Value.member?
    rw [hpublic]
    simp only [Bool.false_eq_true, if_false, hmember]
    rfl
  rw [hpath]
  refine Expr.Evaluator.valueIn_of_walk ?_ (.inl (by decide)) ?_ hv globals
  · intro b hb c hc
    refine isAtomChar_of_isVariableChar ?_
    simp only [List.mem_cons, List.not_mem_nil, or_false] at hb
    rcases hb with rfl | rfl | rfl
    · have hrepeatName : "repeat".toList.all isVariableChar = true := by decide
      exact List.all_eq_true.mp hrepeatName c hc
    · exact hloop.2 c hc
    · exact List.all_eq_true.mp hoperation c hc
  · have hfirst : Expr.step (.map locals) "repeat" = .ok (.map loops) := by
      rw [Expr.step_map, Entries.get, hrepeat]
      rfl
    have hsecond : Expr.step (.map loops) turn.loop = .ok (.loop turn.state) := by
      rw [Expr.step_map, Entries.get, hstate]
      rfl
    have hatoms : ["repeat".toList, turn.loop.toList, operation.toList].map String.ofList
        = ["repeat", turn.loop, operation] := by
      simp only [List.map_cons, List.map_nil, String.ofList_toList]
    rw [hatoms, Expr.walk_cons hfirst rfl (List.cons_ne_nil _ _),
      Expr.walk_cons hsecond rfl (List.cons_ne_nil _ _)]
    exact hstep

/-- A state in force is told by all the paths to it. -/
theorem Turn.InForce.isTold {turn : Turn} {locals : Entries} (h : turn.InForce locals)
    (hloop : turn.loop.toList ≠ [] ∧ ∀ c ∈ turn.loop.toList, isVariableChar c = true)
    (globals : Entries) : turn.IsTold locals globals := by
  have htold : ∀ {operation : String} {v : Value},
      operation.toList.all isVariableChar = true → operation.startsWith "_" = false →
      turn.state.member? operation = some (.operation operation [] (.ok v)) →
      v.isUndefined = false →
      Expr.Evaluator.standard.valueIn locals globals (turn.path operation) = (.ok v, []) :=
    fun hoperation hpublic hmember hv => h.valueIn_path hloop hoperation hpublic hmember hv globals
  -- The states of loops are told in integers.
  have hstart : ((turn.index : Int) == 0) = (turn.index == 0) := by
    rw [Bool.eq_iff_iff, beq_iff_eq, beq_iff_eq]
    omega
  have hlast : ((turn.index : Int) == turn.length - 1) = (turn.index + 1 == turn.length) := by
    rw [Bool.eq_iff_iff, beq_iff_eq, beq_iff_eq]
    omega
  have heven : ((turn.index : Int) % 2 == 0) = (turn.index % 2 == 0) := by
    rw [Bool.eq_iff_iff, beq_iff_eq, beq_iff_eq]
    omega
  have hodd : ((turn.index : Int) % 2 == 1) = (turn.index % 2 == 1) := by
    rw [Bool.eq_iff_iff, beq_iff_eq, beq_iff_eq]
    omega
  refine ⟨?index, ?number, ?length, ?start, ?last, ?even, ?odd⟩
  case index => exact htold (by decide) (by decide +kernel) rfl rfl
  case number => exact htold (by decide) (by decide +kernel) rfl rfl
  case length => exact htold (by decide) (by decide +kernel) rfl rfl
  case start =>
    rw [← hstart]
    exact htold (by decide) (by decide +kernel) rfl rfl
  case last =>
    rw [← hlast]
    exact htold (by decide) (by decide +kernel) rfl rfl
  case even =>
    rw [← heven]
    exact htold (by decide) (by decide +kernel) rfl rfl
  case odd =>
    rw [← hodd]
    exact htold (by decide) (by decide +kernel) rfl rfl

/-! ### The directives of an element in loops -/

/-- The local contexts that a directive evaluates expressions in, when it is handled at a site. Each
definition has the ones before it in force. -/
inductive Directive.EvaluatesIn (ev : Expr.Evaluator) (raw : String) (here : Site) (t : RunState) :
    Directive → Entries → Prop
  | whole {d : Directive} : EvaluatesIn ev raw here t d here.locals
  | defined {front behind : List String} {locals : Entries} {u : RunState} :
    Expr.arguments raw = front ++ behind →
      (makeDefinitions ev here.locals front).Gives t locals u →
      EvaluatesIn ev raw here t .define locals

/-- While a directive of an element is evaluated, `repeat` stands for what it stood for. -/
theorem Calls.get?_of_evaluatesIn {ev : Expr.Evaluator} {walk : Walk} {a here : Site}
    {s t : RunState} {d : Directive} {raw : String} {locals : Entries} (ha : a.LeavesLoops)
    (h : Calls ev walk a s d raw here t) (hin : d.EvaluatesIn ev raw here t locals) :
    locals.get? "repeat" = a.locals.get? "repeat" := by
  rw [← h.get?_repeat ha]
  cases hin with
  | whole => rfl
  | defined hsplit hmake =>
    have hbinds := ne_of_not_mem_definedNames (ha raw h.lookup_waiting)
    refine get?_of_makeDefinitions (fun argument hargument => hbinds argument ?_) hmake
    rw [hsplit]
    exact List.mem_append_left _ hargument

/-- The loops around an element are all there when its directives are evaluated. In a nest of loops
of different names, none of them `repeat`, at whatever depth, with no definition on the way that
binds `repeat` in the local context, the paths to the state of every loop tell its turn, whatever the
global context holds.

What `repeat` stands for on an element is what it stands for on each element that is processed in
its place inside it, whatever loops have been gone through before that, and it is so still when all
that is inside has been processed. -/
theorem loops_in_force {depth fuel : Nat} {root a : Site} {s₀ s : RunState} {turns : List Turn}
    (hnest : Reaches .standard Site.LeavesLoops depth root s₀ turns (fuel + 1) a s)
    (ha : a.LeavesLoops) (hnames : (turns.map Turn.loop).Nodup)
    (hrepeat : "repeat" ∉ turns.map Turn.loop) :
    (∀ d raw here t locals, Calls .standard (standardWalk .standard fuel) a s d raw here t →
      d.EvaluatesIn .standard raw here t locals →
        ∀ turn ∈ turns, ∀ globals, turn.IsTold locals globals) ∧
    (∀ b t, Enters .standard (standardWalk .standard fuel) a s none b t →
      b.locals.get? "repeat" = a.locals.get? "repeat") ∧
    ∀ e locals s', (standardWalk .standard (fuel + 1) a).Gives s (.stays e locals) s' →
      locals.get? "repeat" = a.locals.get? "repeat" := by
  refine ⟨fun d raw here t locals hcall hin turn hturn globals => ?_,
    fun b t henters => henters.get?_repeat ha, fun e locals s' hstays => ?_⟩
  · have hforce := hnest.inForce hnames hrepeat turn hturn
    exact (hforce.congr (hcall.get?_of_evaluatesIn ha hin)).isTold
      (hnest.forall_isVariableChar turn hturn) globals
  · obtain ⟨here, left, s₁, hkept, rfl⟩ := Keeps.of_stays hstays
    exact hkept.get?_repeat ha

/-- A loop over a list enters a copy for each item. The list may be in the local context or in the
global one. -/
theorem Enters.of_list {walk : Walk} {a : Site} {s t : RunState} {raw : String}
    {argument : NamedExpression} {items : List Value} {loops : Entries} {i : Nat} {item : Value}
    {results : List Item} (hdefine : a.element.tag.waiting.lookup Directive.define.tag = none)
    (hcondition : a.element.tag.waiting.lookup Directive.condition.tag = none)
    (hraw : a.element.tag.waiting.lookup Directive.repetition.tag = some raw)
    (hparse : NamedExpression.parse? isVariableChar raw = some argument)
    (hname : argument.expression.toList.all isVariableChar = true)
    (hlist : a.locals.get? argument.expression = some (.list items) ∨
      a.locals.get? argument.expression = none ∧
        s.globals.get? argument.expression = some (.list items))
    (hloops : enclosingLoops a.locals = .ok loops) (hitem : items[i]? = some item)
    (hbefore : (repeatFrom walk (a.without .repetition).element.standalone a.locals loops
      argument.name items.length 0 (items.take i)).Gives
        (s.noting [a.announcement .repetition raw]) results t) :
    Enters .standard walk a s (some ⟨argument.name, i, items.length⟩)
      ⟨(a.without .repetition).element.standalone, [],
        loopContext a.locals loops argument.name item ⟨i, items.length⟩⟩ t.inFreshCopy := by
  -- Neither of the directives in front of the loop waits, so it is handled at the site as it is.
  have hkept : Keeps .standard walk [.define, .condition] a s a a.element.tag.waiting s :=
    (keeps_nil.skip hdefine).skip hcondition
  have hcall : Calls .standard walk a s .repetition raw (a.without .repetition) _ :=
    .next rfl hkept hraw
  have hatom : ∀ c ∈ argument.expression.toList, Expr.isAtomChar c = true ∧ c ≠ ':' := by
    intro c hc
    exact isAtomChar_of_isVariableChar (List.all_eq_true.mp hname c hc)
  have hevaluated : (evaluateIn .standard a.locals argument.expression).Gives
      (s.noting [a.announcement .repetition raw]) (.list items)
      (s.noting [a.announcement .repetition raw]) :=
    evaluateIn_gives_iff.mpr
      ⟨[], Expr.Evaluator.valueIn_of_get? hatom hlist rfl, (RunState.noting_nil _).symm⟩
  have htruth : (Value.list items).truth = true := by
    cases items with
    | nil => cases hitem
    | cons => rfl
  exact .copied hcall hparse hevaluated htruth rfl hloops hitem hbefore

/-- A row that is repeated for two items, with a cell in it that is repeated for one. -/
def rows : Site where
  element :=
    { tag := ⟨.plain "tr", [standardAttribute "repeat" "row rows"], [⟨some "tal", standardUri⟩],
        some 1⟩
      children := [.element ⟨.plain "td", [standardAttribute "repeat" "cell cells",
        standardAttribute "content" "repeat/row/number"], [], some 2⟩ []] }
  scope := []
  locals := [(.str "rows", .list [.str "a", .str "b"]), (.str "cells", .list [.str "c"])]

/-- The copy of the row for the second item. -/
def secondRow : Site where
  element := (rows.without .repetition).element.standalone
  scope := []
  locals := loopContext rows.locals [] "row" (.str "b") ⟨1, 2⟩

/-- The cell in that copy. -/
def secondCell : Site where
  element :=
    { tag := ⟨.plain "td", [standardAttribute "repeat" "cell cells",
        standardAttribute "content" "repeat/row/number"], [], some 2⟩
      children := [] }
  scope := secondRow.innerScope
  locals := secondRow.locals

/-- The copy of the cell for its item. -/
def copiedCell : Site where
  element := (secondCell.without .repetition).element.standalone
  scope := []
  locals := loopContext secondCell.locals [(.str "row", .loop ⟨1, 2⟩)] "cell" (.str "c") ⟨0, 1⟩

/-- In the second row the path to the number of the row leads to 2. -/
theorem loops_in_force_copiedCell : ∃ s here t,
    Reaches .standard Site.LeavesLoops 5 rows ⟨[], [], 0, false⟩
      [⟨"row", 1, 2⟩, ⟨"cell", 0, 1⟩] 2 copiedCell s ∧
    Calls .standard (standardWalk .standard 1) copiedCell s .content "repeat/row/number" here t ∧
    ∀ globals, Expr.Evaluator.standard.valueIn here.locals globals "repeat/row/number"
      = (.ok (.int 2), []) := by
  have hnone : ∀ {a : Site}, a.element.tag.waiting.lookup Directive.define.tag = none →
      a.LeavesLoops := by
    intro a hdefine raw hraw
    rw [hdefine] at hraw
    cases hraw
  -- The first row is processed before the second.
  have hsucceeds : (repeatFrom (standardWalk .standard 4)
      (rows.without .repetition).element.standalone rows.locals [] "row" 2 0 [.str "a"]).Succeeds
      (RunState.noting ⟨[], [], 0, false⟩ [rows.announcement .repetition "row rows"]) := by
    decide +kernel
  obtain ⟨results, t₁, hbefore⟩ := succeeds_iff.mp hsucceeds
  have hparseRow : NamedExpression.parse? isVariableChar "row rows" = some ⟨"row", "rows"⟩ := by
    decide +kernel
  have hparseCell : NamedExpression.parse? isVariableChar "cell cells"
      = some ⟨"cell", "cells"⟩ := by decide +kernel
  have hrow := Enters.of_list (a := rows) (i := 1) rfl rfl rfl hparseRow (by decide) (.inl rfl) rfl rfl
    hbefore
  have hkept : Keeps .standard (standardWalk .standard 3) Directive.all secondRow t₁.inFreshCopy
      secondRow secondRow.element.tag.waiting t₁.inFreshCopy :=
    .of_nothing (fun d => by cases d <;> rfl) Directive.all
  have hcell : Enters .standard (standardWalk .standard 3) secondRow t₁.inFreshCopy none secondCell
      (t₁.inFreshCopy.leaving secondRow secondRow.element.tag.waiting) :=
    .child hkept (List.nil_append _).symm (walkNodes_nil_gives_iff.mpr ⟨rfl, rfl⟩)
  have hcopy := @Enters.of_list (standardWalk .standard 2) secondCell
    (t₁.inFreshCopy.leaving secondRow secondRow.element.tag.waiting) _ _ _ _ _ 0 _ _
    rfl rfl rfl hparseCell (by decide) (.inl rfl) rfl rfl (repeatFrom_nil_gives_iff.mpr ⟨rfl, rfl⟩)
  obtain ⟨s, hnest⟩ : ∃ s, Reaches .standard Site.LeavesLoops 5 rows ⟨[], [], 0, false⟩
      [⟨"row", 1, 2⟩, ⟨"cell", 0, 1⟩] 2 copiedCell s :=
    ⟨_, ((Reaches.here.inside (hnone rfl) hrow).inside (hnone rfl) hcell).inside (hnone rfl) hcopy⟩
  have hcall : Calls .standard (standardWalk .standard 1) copiedCell s .content
      "repeat/row/number" (copiedCell.without .content)
      (s.noting [copiedCell.announcement .content "repeat/row/number"]) :=
    .next rfl (((keeps_nil.skip rfl).skip rfl).skip rfl) rfl
  refine ⟨s, _, _, hnest, hcall, fun globals => ?_⟩
  have htold := (loops_in_force hnest (hnone rfl) (by decide) (by decide)).1 _ _ _ _ _ hcall .whole
    ⟨"row", 1, 2⟩ List.mem_cons_self globals
  exact htold.number

end AttrTemplates
