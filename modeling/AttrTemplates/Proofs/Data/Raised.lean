import AttrTemplates.Data.Format
import AttrTemplates.Proofs.Data.Finite

/-!
# `AttrTemplates.Proofs.Data.Raised`: what data of each format raise

YAML takes a tag at its word, so that reading it raises more than that data are nested too deeply:
what the operations raise that a word is handed to. These kinds are all there are, for data in which
nothing lies in itself (`Format.confined_read`).
-/

set_option autoImplicit false

namespace AttrTemplates.Data

variable {α β : Type} {kinds : List FailureKind}

/-- The kinds of failures that data of a format may raise. -/
def Format.raises : Format → List FailureKind
  | .yaml =>
    [.attributeError, .indexError, .keyError, .overflowError, .recursionError, .typeError]
  | .json | .toml | .xml => [.recursionError]

namespace Yaml

/-! ### Texts -/

/-- A number beyond all characters is malformed, and one too large for the machine overflows. -/
@[grind .]
instance confined_numberedChar (n : Nat) : Confined Format.yaml.raises (numberedChar n) := by
  have h : Confined Format.yaml.raises (.error (.failure
      (.raised .overflowError "Python int too large to convert to C int")) : Except Fault Char) :=
    confined_failure (by decide)
  unfold numberedChar
  grind

/-- Line ends in quotes are at most interrupted by a mark that parts documents. -/
@[grind .]
instance confined_quotedBreaks (read : List Char) (p : Place) (fuel : Nat) :
    Confined kinds (quotedBreaks read p fuel) := by
  induction fuel generalizing read p with
  | zero => exact confined_malformed
  | succ fuel ih =>
    unfold quotedBreaks
    grind

/-- A gap in quoted text is white space or line ends, and raises nothing. -/
@[grind .]
instance confined_quotedGap (p : Place) : Confined kinds (quotedGap p) := by
  unfold quotedGap
  grind

/-- An escape raises what the number in it does. -/
@[grind .]
instance confined_escape (p : Place) : Confined Format.yaml.raises (escape p) := by
  unfold escape
  grind

/-- Quoted text raises what its escapes do, one piece a round. -/
@[grind .]
instance confined_quotedFrom (quote : Char) (read : List Char) (p : Place) (fuel : Nat) :
    Confined Format.yaml.raises (quotedFrom quote read p fuel) := by
  induction fuel generalizing read p with
  | zero => exact confined_malformed
  | succ fuel ih =>
    unfold quotedFrom
    grind

/-- A quoted text is at most left open, apart from its escapes. -/
@[grind .]
instance confined_quoted (p : Place) : Confined Format.yaml.raises (quoted p) := by
  unfold quoted
  grind

/-- The number behind a block indicator is at most a zero. -/
@[grind .]
instance confined_increment (p : Place) : Confined kinds (increment p) := by
  unfold increment
  grind

/-- The two indicators of a block may come in either order, and are at most misplaced. -/
@[grind .]
instance confined_indicators (p : Place) : Confined kinds (indicators p) := by
  unfold indicators
  grind

/-- A block is indicators and lines of text, which are at most malformed. -/
@[grind .]
instance confined_block (fold : Bool) (indent : Int) (p : Place) :
    Confined kinds (block fold indent p) := by
  unfold block
  grind

/-! ### Tokens -/

namespace Scanner

/-- A candidate for a key that is too far back is at most missing its colon. -/
@[grind .]
instance confined_dropStale (s : Scanner) : Confined kinds s.dropStale := by
  unfold dropStale
  grind

/-- A candidate that is given up is at most one that had to be a key. -/
@[grind .]
instance confined_dropCandidate (s : Scanner) : Confined kinds s.dropCandidate := by
  unfold dropCandidate
  grind

/-- A new candidate takes the place of one that is given up. -/
@[grind .]
instance confined_addCandidate (s : Scanner) : Confined kinds s.addCandidate := by
  unfold addCandidate
  grind

/-- The name of an anchor is at most empty or not ended. -/
@[grind .]
instance confined_anchorName (p : Place) : Confined kinds (anchorName p) := by
  unfold anchorName
  dsimp only
  split
  · exact confined_malformed
  · exact confined_ok _

/-- Bytes that are written as escapes are at most too few for a character. -/
@[grind .]
instance confined_escapedBytes (read : List UInt8) (p : Place) (fuel : Nat) :
    Confined kinds (escapedBytes read p fuel) := by
  induction fuel generalizing read p with
  | zero => exact confined_malformed
  | succ fuel ih =>
    unfold escapedBytes
    grind

/-- An address is read up to the first character that has no place in it. -/
@[grind .]
instance confined_addressFrom (read : List Char) (p : Place) (fuel : Nat) :
    Confined kinds (addressFrom read p fuel) := by
  induction fuel generalizing read p with
  | zero => exact confined_malformed
  | succ fuel ih =>
    unfold addressFrom
    grind

/-- The address of a tag is at most empty. -/
@[grind .]
instance confined_address (p : Place) : Confined kinds (address p) := by
  unfold address
  grind

/-- A handle is at most not closed. -/
@[grind .]
instance confined_handle (p : Place) : Confined kinds (handle p) := by
  unfold handle
  grind

/-- A tag is a handle and an address, or one of the two, and nothing else goes wrong in it. -/
@[grind .]
instance confined_tag (p : Place) : Confined kinds (tag p) := by
  unfold tag
  grind

/-- The numbers of a version are digits, read as far as they go. -/
@[grind .]
instance confined_directiveNumber (p : Place) : Confined kinds (directiveNumber p) := by
  unfold directiveNumber
  grind

/-- Directives are names with numbers or tags behind them, and one that is unknown is passed over.
-/
@[grind .]
instance confined_directive (p : Place) : Confined kinds (directive p) := by
  unfold directive
  grind

/-- Open blocks are closed one after the other, and a candidate is given up once. -/
@[grind .]
instance confined_toOutermost (s : Scanner) : Confined kinds s.toOutermost := by
  unfold toOutermost
  grind

/-- In front of a bracket a candidate is set, and behind it the next word may be a key. -/
@[grind .]
instance confined_openBracket (s : Scanner) (t : Token) : Confined kinds (s.openBracket t) := by
  unfold openBracket
  grind

/-- A closing bracket gives its candidate up. -/
@[grind .]
instance confined_closeBracket (s : Scanner) (t : Token) : Confined kinds (s.closeBracket t) := by
  unfold closeBracket
  grind

/-- An entry is at most at a place where none may begin. -/
@[grind .]
instance confined_beginEntry (s : Scanner) (opening : Token) :
    Confined kinds (s.beginEntry opening) := by
  unfold beginEntry
  grind

/-- An entry of a block list begins like any other. -/
@[grind .]
instance confined_blockEntry (s : Scanner) : Confined kinds s.blockEntry := by
  unfold blockEntry
  grind

/-- A key that is marked as one begins like an entry. -/
@[grind .]
instance confined_explicitKey (s : Scanner) : Confined kinds s.explicitKey := by
  unfold explicitKey
  grind

/-- A colon makes a key of the candidate, if that may be one. -/
@[grind .]
instance confined_colon (s : Scanner) : Confined kinds s.colon := by
  unfold colon
  grind

/-- The steps around a word raise nothing of their own, so a word is confined if its reader is. -/
theorem confined_word {read : Place → Except Fault (Token × Place)}
    (h : ∀ p, Confined kinds (read p)) (s : Scanner) : Confined kinds (s.word read) := by
  unfold word
  grind

/-- A plain word raises nothing but that it is malformed. -/
@[grind .]
instance confined_plainWord (s : Scanner) : Confined kinds s.plainWord := by
  unfold plainWord
  grind

/-- A block of text raises nothing but that it is malformed. -/
@[grind .]
instance confined_blockText (s : Scanner) (fold : Bool) : Confined kinds (s.blockText fold) := by
  unfold blockText
  grind

/-- Of the words, the quoted one is where a number can be too large. -/
@[grind .]
instance confined_quotedText (p : Place) : Confined Format.yaml.raises (quotedText p) := by
  unfold quotedText
  grind

/-- Every token begins with a character that tells its reader, and quoted text is the one reader
that raises something. -/
@[grind .]
instance confined_tokenAt (s : Scanner) (c : Char) : Confined Format.yaml.raises (s.tokenAt c) := by
  -- Each branch begins with another character, and is one of the readers above.
  unfold tokenAt
  dsimp only
  repeat' refine confined_ite ?_ ?_
  all_goals grind [confined_word]

/-- Tokens are read one a round, and none is left when the rounds are. -/
theorem confined_tokensFrom (s : Scanner) (fuel : Nat) :
    Confined Format.yaml.raises (s.tokensFrom fuel) := by
  induction fuel generalizing s with
  | zero => exact confined_malformed
  | succ fuel ih =>
    unfold tokensFrom
    grind

end Scanner

/-! ### Nodes -/

namespace Nodes

/-- The next token is looked at, and there may be none. -/
@[grind .]
instance confined_peek : ConfinedFrom kinds peek := by
  unfold peek
  grind

/-- A token that was looked at is passed. -/
@[grind .]
instance confined_pass : ConfinedFrom kinds pass := confinedFrom_modify _

/-- A token that may be there is passed if it is. -/
@[grind .]
instance confined_accept (t : Token) : ConfinedFrom kinds (accept t) := by
  unfold accept
  grind

/-- A token that must be there is at most missing. -/
@[grind .]
instance confined_expect (t : Token) : ConfinedFrom kinds (expect t) := by
  unfold expect
  grind

/-- A handle stands for the beginning of a tag, or is unknown. -/
@[grind .]
instance confined_fullTag (handle : Option String) (suffix : String) :
    ConfinedFrom kinds (fullTag handle suffix) := by
  unfold fullTag
  grind

/-- A tag may be missing, and its handle may be unknown. -/
@[grind .]
instance confined_tag? : ConfinedFrom kinds tag? := by
  unfold tag?
  grind

/-- An anchor may be missing. -/
@[grind .]
instance confined_anchor? : ConfinedFrom kinds anchor? := by
  unfold anchor?
  grind

/-- The properties of a node are a tag and an anchor, in either order. -/
@[grind .]
instance confined_properties : ConfinedFrom kinds properties := by
  unfold properties
  grind

/-- A node is noted under its anchor, if it has one. -/
@[grind .]
instance confined_nameNode (anchor : Option String) (t : Option Tree) :
    ConfinedFrom kinds (nameNode anchor t) := by
  unfold nameNode
  grind

/-- Nodes may be nested too deeply, which is one of the things that are raised. -/
@[grind .]
instance confined_tooDeep :
    ConfinedFrom Format.yaml.raises (throw (.failure .nestingTooDeep) : Nodes α) :=
  confinedFrom_failure (by decide)

/-- All readers of a node and its parts are confined, as far as their fuel goes. -/
structure Readers (fuel : Nat) : Prop where
  node (depth : Nat) (inBlock dashes : Bool) :
    ConfinedFrom Format.yaml.raises (node depth inBlock dashes fuel)
  content (depth : Nat) (inBlock dashes : Bool) (anchor tag : Option String) :
    ConfinedFrom Format.yaml.raises (content depth inBlock dashes anchor tag fuel)
  nodeUnless (ends : List Token) (depth : Nat) (inBlock dashes : Bool) :
    ConfinedFrom Format.yaml.raises (nodeUnless ends depth inBlock dashes fuel)
  blockItems (depth : Nat) (read : List Tree) :
    ConfinedFrom Format.yaml.raises (blockItems depth read fuel)
  dashedItems (depth : Nat) (read : List Tree) :
    ConfinedFrom Format.yaml.raises (dashedItems depth read fuel)
  blockEntries (depth : Nat) (read : List (Tree × Tree)) :
    ConfinedFrom Format.yaml.raises (blockEntries depth read fuel)
  flowItems (depth : Nat) (isFirst : Bool) (read : List Tree) :
    ConfinedFrom Format.yaml.raises (flowItems depth isFirst read fuel)
  flowEntries (depth : Nat) (isFirst : Bool) (read : List (Tree × Tree)) :
    ConfinedFrom Format.yaml.raises (flowEntries depth isFirst read fuel)

/-- The readers of nodes raise only that there is too much nesting. -/
theorem readers (fuel : Nat) : Readers fuel := by
  -- The readers call one another, so all of them go one step of fuel down together.
  induction fuel with
  | zero => constructor <;> intros <;> exact confinedFrom_throw
  | succ fuel ih =>
    obtain ⟨hnode, hcontent, hunless, hblock, hdashed, hentries, hflow, hflowEntries⟩ := ih
    constructor
    case node =>
      intro depth inBlock dashes
      unfold Nodes.node
      refine confinedFrom_checked confined_tooDeep (confined_peek.bind fun t => ?_)
      split
      · grind
      · refine confined_properties.bind fun p => confinedFrom_get.bind fun r => ?_
        exact confinedFrom_checked confinedFrom_throw ((hcontent _ _ _ _ _).bind fun t => by grind)
    case content =>
      intro depth inBlock dashes anchor tag
      unfold Nodes.content
      refine confined_peek.bind fun t => ?_
      split
      · grind
      split
      all_goals grind
    case nodeUnless =>
      intro ends depth inBlock dashes
      unfold Nodes.nodeUnless
      grind
    case blockItems =>
      intro depth read
      unfold Nodes.blockItems
      grind
    case dashedItems =>
      intro depth read
      unfold Nodes.dashedItems
      grind
    case blockEntries =>
      intro depth read
      unfold Nodes.blockEntries
      grind
    case flowItems =>
      intro depth isFirst read
      unfold Nodes.flowItems
      grind
    case flowEntries =>
      intro depth isFirst read
      unfold Nodes.flowEntries
      grind

/-- The directives of a document are read until there are no more. -/
@[grind .]
instance confined_directives (versionSeen : Bool) (handles : List (String × String)) (fuel : Nat) :
    ConfinedFrom kinds (directives versionSeen handles fuel) := by
  induction fuel generalizing versionSeen handles with
  | zero => exact confinedFrom_throw
  | succ fuel ih =>
    unfold directives
    grind

/-- The marks that end a document are passed, as many as there are. -/
@[grind .]
instance confined_documentEnds (fuel : Nat) : ConfinedFrom kinds (documentEnds fuel) := by
  induction fuel with
  | zero => exact confinedFrom_pure _
  | succ fuel ih =>
    unfold documentEnds
    grind

/-- A document raises what the node in it does. -/
theorem confined_document (fuel : Nat) : ConfinedFrom Format.yaml.raises (document fuel) := by
  have hnode := (readers fuel).node
  unfold document
  grind

end Nodes

/-- A text becomes a tree, or what goes wrong is what tokens or nodes raise. -/
theorem confined_tree (cs : List Char) : Confined Format.yaml.raises (tree cs) :=
  (Scanner.confined_tokensFrom _ _).bind fun _ =>
    ((Nodes.confined_document _).confined _).bind fun _ => confined_pure _

/-! ### Words -/

/-- A look at the first character of an empty word is an `IndexError`. -/
@[grind .]
instance confined_noFirst : Confined Format.yaml.raises (.error noFirst : Except Fault α) :=
  confined_failure (by decide)

/-- The same in a step that ends there. -/
@[grind .]
instance confined_throw_noFirst : Confined Format.yaml.raises (throw noFirst : Except Fault α) :=
  confined_noFirst

/-- Digits of a base are an integer, or just malformed. -/
@[grind .]
instance confined_integerOf (base : Nat) (cs : List Char) : Confined kinds (integerOf base cs) := by
  unfold integerOf
  grind

/-- What is empty behind a sign has no first character, and all else is malformed at most. -/
@[grind .]
instance confined_naturalValue (cs : List Char) : Confined Format.yaml.raises (naturalValue cs) := by
  have hparts (parts : List (List Char)) : Confined Format.yaml.raises (parts.mapM (integerOf 10)) :=
    .mapM fun cs _ => confined_integerOf 10 cs
  unfold naturalValue
  grind

/-- A word of underscores alone has no first character either. -/
@[grind .]
instance confined_intValue (word : List Char) : Confined Format.yaml.raises (intValue word) := by
  unfold intValue
  grind

/-- A decimal is a float, or just malformed. -/
@[grind .]
instance confined_floatOf (word : List Char) : Confined kinds (floatOf word) := by
  unfold floatOf
  grind

/-- The places of base sixty count more and more, until their worth is too large for a float. -/
@[grind .]
instance confined_sumSixtieths (sum : Float) (base : Nat) (ds : List Float) :
    Confined Format.yaml.raises (sumSixtieths sum base ds) := by
  have hlarge : Confined Format.yaml.raises (.error (.failure
      (.raised .overflowError "int too large to convert to float")) : Except Fault Float) :=
    confined_failure (by decide)
  induction ds generalizing sum base with
  | nil => exact confined_ok sum
  | cons d ds ih =>
    unfold sumSixtieths
    exact confined_ite hlarge (ih _ _)

/-- A float raises what an empty word or sixtieths do. -/
@[grind .]
instance confined_floatValue (word : List Char) : Confined Format.yaml.raises (floatValue word) := by
  have hparts (parts : List (List Char)) : Confined Format.yaml.raises (parts.mapM floatOf) :=
    .mapM fun cs _ => confined_floatOf cs
  unfold floatValue
  grind

/-- A moment is at most a date that does not exist. -/
@[grind .]
instance confined_moment (t : Timestamp) : Confined kinds t.moment := by
  unfold Timestamp.moment
  grind

/-- Each kind raises its own: an unknown truth value a `KeyError`, a date that is none an
`AttributeError`, and numbers what their readers do. -/
@[grind .]
instance confined_scalarValue (kind : Kind) (word : String) :
    Confined Format.yaml.raises (kind.scalarValue word) := by
  have htruth (key : String) :
      Confined Format.yaml.raises (.error (.failure (.missingKey key)) : Except Fault Value) :=
    confined_failure (by rw [Failure.kind]; decide)
  have hdate : Confined Format.yaml.raises (.error (.failure (.raised .attributeError
      "'NoneType' object has no attribute 'groupdict'")) : Except Fault Value) :=
    confined_failure (by decide)
  unfold Kind.scalarValue
  grind

/-! ### Values -/

namespace Tree

variable {value : Tree → Except Fault Value}

/-- A word is confined, whatever it is said to be. -/
@[grind .]
instance confined_wordValue (t : Tree) : Confined Format.yaml.raises t.wordValue := by
  have hlist : Confined Format.yaml.raises (.error (.failure (.raised .typeError
      "expected string or bytes-like object, got 'list'")) : Except Fault Value) :=
    confined_failure (by decide)
  unfold wordValue
  grind

/-- Finite entries are put into a mapping if finite nodes have values. -/
theorem confined_putAll (h : ∀ t, t.isFinite = true → Confined Format.yaml.raises (value t))
    (done : Entries) (entries : List (Tree × Tree)) (hfinite : areEntriesFinite entries = true) :
    Confined Format.yaml.raises (putAll value done entries) := by
  induction entries generalizing done with
  | nil => exact confined_ok done
  | cons e es ih =>
    simp only [areEntriesFinite, Bool.and_eq_true] at hfinite
    obtain ⟨⟨hk, hv⟩, hes⟩ := hfinite
    have hkey := h _ hk
    have hvalue := h _ hv
    have hrest (done : Entries) := ih done hes
    unfold putAll
    grind

/-- The entries of a finite mapping, merges included. -/
theorem confined_entriesOf (h : ∀ t, t.isFinite = true → Confined Format.yaml.raises (value t))
    (entries : List (Tree × Tree)) (hfinite : areEntriesFinite entries = true) :
    Confined Format.yaml.raises (entriesOf value entries) :=
  (yields_merged entries hfinite).confined_bind fun _ hp =>
    confined_putAll h _ _ (areEntriesFinite_append.mpr hp)

/-- The only entry of a finite mapping. -/
theorem confined_pairOf (h : ∀ t, t.isFinite = true → Confined Format.yaml.raises (value t))
    (t : Tree) (hfinite : t.isFinite = true) : Confined Format.yaml.raises (pairOf value t) := by
  unfold pairOf
  split
  · simp only [isFinite, areEntriesFinite, Bool.and_eq_true] at hfinite
    exact (h _ hfinite.1.1).bind fun k => (h _ hfinite.1.2).bind fun v => confined_ok _
  · exact confined_malformed

/-- A finite node has a value, or what is raised is known. -/
theorem confined_valueOf (fuel : Nat) (t : Tree) (hfinite : t.isFinite = true) :
    Confined Format.yaml.raises (valueOf fuel t) := by
  induction fuel generalizing t with
  | zero => exact confined_malformed
  | succ fuel ih =>
    have hentries := confined_entriesOf ih
    have hitems (ts : List Tree) (hts : areFinite ts = true) :
        Confined Format.yaml.raises (ts.mapM (valueOf fuel)) :=
      .mapM fun t ht => ih t (areFinite_iff.mp hts t ht)
    have hpairs (ts : List Tree) (hts : areFinite ts = true) :
        Confined Format.yaml.raises (ts.mapM (pairOf (valueOf fuel))) :=
      .mapM fun t ht => confined_pairOf ih t (areFinite_iff.mp hts t ht)
    unfold valueOf
    -- The nodes that a collection is made of are as finite as it is.
    split
    case h_1 => exact (hitems _ hfinite).bind fun _ => confined_ok _
    case h_2 | h_3 => exact (hentries _ hfinite).bind fun _ => confined_ok _
    case h_4 | h_5 => exact (hpairs _ hfinite).bind fun _ => confined_ok _
    case h_6 => cases hfinite
    case h_7 => exact confined_wordValue _

/-- A node that is looked at is left to the next round as it is, or not at all. -/
theorem yields_seen (t : Tree) (hfinite : t.isFinite = true) :
    Yields Format.yaml.raises (areFinite · = true) t.seen := by
  unfold seen
  split
  · exact yields_ok (by simp [areFinite, hfinite])
  · exact (confined_wordValue t).yields_map fun _ => rfl

/-- An entry leaves its key and its value, as far as they are collections. -/
theorem yields_entrySeen (e : Tree × Tree) (hk : e.1.isFinite = true) (hv : e.2.isFinite = true) :
    Yields Format.yaml.raises (areFinite · = true) (entrySeen e) := by
  obtain ⟨k, v⟩ := e
  unfold entrySeen
  dsimp only
  split
  · exact yields_malformed
  · exact (yields_seen k hk).bind fun _ hks => (yields_seen v hv).bind fun _ hvs =>
      yields_ok (areFinite_append.mpr ⟨hks, hvs⟩)

/-- So does the only entry of a mapping, where a key may be a collection too. -/
theorem yields_pairSeen (t : Tree) (hfinite : t.isFinite = true) :
    Yields Format.yaml.raises (areFinite · = true) t.pairSeen := by
  unfold pairSeen
  split
  · simp only [isFinite, areEntriesFinite, Bool.and_eq_true] at hfinite
    exact (yields_seen _ hfinite.1.1).bind fun _ hks => (yields_seen _ hfinite.1.2).bind fun _ hvs =>
      yields_ok (areFinite_append.mpr ⟨hks, hvs⟩)
  · exact yields_malformed

/-- Steps that each leave finite nodes leave finite nodes together. -/
theorem yields_flatten {α : Type} {read : α → Except Fault (List Tree)} {as : List α}
    (h : ∀ a ∈ as, Yields Format.yaml.raises (areFinite · = true) (read a)) :
    Yields Format.yaml.raises (areFinite · = true)
      (as.mapM read >>= fun tss => pure tss.flatten) :=
  (Yields.mapM h).bind fun _ htss => yields_ok (areFinite_flatten.mpr htss)

/-- What is left of a finite node once it is opened is finite. -/
theorem yields_opened (t : Tree) (hfinite : t.isFinite = true) :
    Yields Format.yaml.raises (areFinite · = true) t.opened := by
  unfold opened
  split
  case h_1 => exact yields_flatten fun t ht => yields_seen t (areFinite_iff.mp hfinite t ht)
  case h_2 | h_3 =>
    refine (yields_merged _ hfinite).bind fun p hp => yields_flatten fun e he => ?_
    obtain ⟨hk, hv⟩ := areEntriesFinite_iff.mp (areEntriesFinite_append.mpr hp) e he
    exact yields_entrySeen e hk hv
  case h_4 | h_5 =>
    exact yields_flatten fun t ht => yields_pairSeen t (areFinite_iff.mp hfinite t ht)
  case h_6 => exact yields_ok rfl
  case h_7 => exact yields_malformed

/-- The rounds raise nothing but what a node raises in its round. -/
theorem confined_rounds (fuel : Nat) (ts : List Tree) (hfinite : areFinite ts = true) :
    Confined Format.yaml.raises (rounds fuel ts) := by
  induction fuel generalizing ts with
  | zero => exact confined_ok ()
  | succ fuel ih =>
    cases ts with
    | nil => exact confined_ok ()
    | cons t ts =>
      have hopened := Yields.mapM fun t' ht' => yields_opened t' (areFinite_iff.mp hfinite t' ht')
      exact hopened.confined_bind fun tss htss => ih _ (areFinite_flatten.mpr htss)

/-- The value of a finite node, with the failure that counts. -/
theorem confined_value (t : Tree) (hfinite : t.isFinite = true) :
    Confined Format.yaml.raises t.value :=
  (yields_seen t hfinite).confined_bind fun ts hts =>
    (confined_rounds _ ts hts).bind fun _ => confined_valueOf _ t hfinite

end Tree

/-- A text of YAML in which nothing lies in itself raises what is known, and has a value
otherwise. -/
theorem confined_read (s : String) (hfinite : isFinite s = true) :
    Confined Format.yaml.raises (read s) := by
  have hvalue : ∀ t, tree s.toList = .ok (some t) → Confined Format.yaml.raises t.value := by
    intro t ht
    rw [isFinite, ht] at hfinite
    exact Tree.confined_value t hfinite
  unfold read
  dsimp only
  split
  · exact confined_malformed
  · refine (confined_tree _).bind_of_ok fun t? ht? => ?_
    cases t? with
    | none => exact confined_ok _
    | some t => exact hvalue t ht?

end Yaml

/-! ### Any format -/

/-- Whether nothing in a text of the format lies in itself. Only YAML has names for the parts of
data. -/
def Format.isFinite : Format → String → Bool
  | yaml, text => Yaml.isFinite text
  | json, _ | toml, _ | xml, _ => true

/-- Reading a text of a format in which nothing lies in itself raises nothing but what is known of
that format. -/
theorem Format.confined_read (f : Format) (text : String) (hfinite : f.isFinite text = true) :
    Confined f.raises (f.read text) := by
  cases f with
  | json => exact Json.confined_read text
  | yaml => exact Yaml.confined_read text hfinite
  | toml => exact Toml.confined_read text
  | xml => exact Markup.confined_read text

/-- UTF-8 is found under its name. -/
theorem namedEncoding_utf8 : Text.namedEncoding "utf-8" = .charset .utf8 := by decide +kernel

/-- Bytes that are said to be in no other encoding are always some text. -/
theorem Input.exists_decode (bs : List UInt8) : ∃ text, (Input.bytes bs none).decode = .ok text := by
  have hhalves : Text.firstHalves? "utf-8" = none := by decide +kernel
  have hname : checkEncodingName "utf-8" = .ok () := by
    rw [checkEncodingName, hhalves]
    exact if_neg (by decide +kernel)
  change ∃ text, decodeNamed "utf-8" bs = .ok text
  rw [decodeNamed, hname, namedEncoding_utf8]
  by_cases hempty : bs.isEmpty = true
  · exact ⟨"", if_pos hempty⟩
  · exact ⟨_, if_neg hempty⟩

/-- What the bytes of a file are, its name being known: a text in a format. -/
structure Input.AreIn (bs : List UInt8) (path : String) (format : Format) (text : String) :
    Prop where
  decode_eq : (Input.bytes bs none).decode = .ok text
  detect?_eq : Format.detect? (some path) (some text) = some format

/-- What reading the bytes of a file raises is told by the format that its data are in, unless the
engine says itself that it cannot read them. Nothing in the data may lie in itself. -/
theorem Input.kind_of_read {bs : List UInt8} {path : String} {f : Failure}
    (hfinite : ∀ format text, Input.AreIn bs path format text → format.isFinite text = true)
    (h : (Input.bytes bs none).read none (some path) = .error f) :
    f.isOwn = true ∨ ∃ format text, Input.AreIn bs path format text ∧ f.kind ∈ format.raises := by
  obtain ⟨text, htext⟩ := Input.exists_decode bs
  simp only [Input.read, htext, bind, Except.bind] at h
  -- No format is asked for by name, so that what is told apart is the format detected.
  split at h
  · cases h
    exact .inl rfl
  · next format hformat =>
    have hin : Input.AreIn bs path format text := ⟨htext, hformat⟩
    have hconfined := format.confined_read text (hfinite format text hin)
    split at h
    · cases h
    · cases h
      exact .inl rfl
    · next e hread =>
      cases h
      exact .inr ⟨format, text, hin, hconfined.kind_mem hread⟩
    · next hread => exact absurd hread hconfined.ne_endless

end AttrTemplates.Data
