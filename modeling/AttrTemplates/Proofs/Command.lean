import AttrTemplates.Command
import AttrTemplates.Proofs.Data.Raised

/-!
# `AttrTemplates.Proofs.Command`: what the command line reports

A command ends in one of four ways, and which one is told by its arguments and by what the files
hold (`runArguments_reports`):

* the arguments are not one or two names, the first no flag: the usage and status 2;
* the data are a mapping or nothing, and the template renders with them: the document and status 0;
* reading the data raises something that is no failure of the engine: the command ends with it;
* anything else: an error message and status 1.

The third way stays open, as data may be neither read nor refused. What is raised then depends on
the format of the data (`Data.Format.raises`): they are nested too deeply, or they are YAML, which
takes a tag at its word, so that an empty text tagged as an integer ends the command
(`untold_failure`).

Data in which something lies in itself are left out (`DataAreFinite`). They can be read, and a
template may even render with them, but no value stands for them here.
-/

set_option autoImplicit false

namespace AttrTemplates

/-! ### Failures as text -/

/-- Every failure has something to say. -/
theorem Failure.description_ne_empty (f : Failure) : f.description ≠ "" := by
  unfold Failure.description
  split <;> simp

/-- A failure is never told in no words. -/
theorem formatFailure_ne_empty {message : String} (h : message ≠ "") (location : Option Location) :
    formatFailure (some message) location ≠ "" := by
  have hmessage : (some message).filter (!·.isEmpty) = some message := by simp [h]
  simp only [formatFailure, hmessage]
  split
  · exact h
  · split <;> simp [h]

/-- So has the report of one. -/
theorem Report.formatted_ofFailure_ne_empty (f : Failure) (source : String) :
    (Report.ofFailure f source).formatted ≠ "" :=
  formatFailure_ne_empty f.description_ne_empty _

/-! ### Arguments -/

namespace Command

/-- The names among arguments. -/
def namesOf (arguments : List String) : List String := arguments.filter (· != xmlFlag)

/-- The format that arguments ask for. -/
def formatOf (arguments : List String) : Format :=
  if arguments.contains xmlFlag then .xml else .html

/-- What a command can work on: a name for the template, which is no flag, and perhaps one more for
the data. -/
inductive AreNames : List String → Prop
  | template {template : String} : ¬ template.startsWith "-" → AreNames [template]
  | withData {template data : String} : ¬ template.startsWith "-" → AreNames [template, data]

/-- The names of a command. -/
def names (c : Command) : List String := c.template :: c.data.toList

/-- Names that a command can work on make one. -/
theorem exists_ofArguments? {arguments : List String} (h : AreNames (namesOf arguments)) :
    ∃ c, ofArguments? arguments = some c ∧ c.names = namesOf arguments
      ∧ c.format = formatOf arguments := by
  generalize hnames : namesOf arguments = names at h
  simp only [namesOf] at hnames
  cases h with
  | template hfirst =>
    exact ⟨_, by simp only [ofArguments?, hnames]; exact if_neg hfirst, rfl, rfl⟩
  | withData hfirst =>
    exact ⟨_, by simp only [ofArguments?, hnames]; exact if_neg hfirst, rfl, rfl⟩

/-- Other names make none. -/
theorem ofArguments?_of_not_areNames {arguments : List String}
    (h : ¬ AreNames (namesOf arguments)) : ofArguments? arguments = none := by
  simp only [namesOf] at h
  rcases hnames : arguments.filter (· != xmlFlag) with _ | ⟨template, _ | ⟨data, _ | _⟩⟩
  all_goals simp only [ofArguments?, hnames]
  all_goals rw [hnames] at h
  · exact if_pos (Decidable.by_contra fun hfirst => h (.template hfirst))
  · exact if_pos (Decidable.by_contra fun hfirst => h (.withData hfirst))

/-! ### Files -/

/-- Whether there is a file of a name, or nothing. -/
def HasFileOrNothing (files : Files) (name : String) : Prop :=
  files (Path.ofString name) = .error .missing ∨ ∃ bytes, files (Path.ofString name) = .ok bytes

/-- Files that are all there, looked at one after the other. -/
theorem hasFileOrNothing_of_all {files : Files} {names : List String}
    (h : (names.all fun name => (files (Path.ofString name)).toOption.isSome) = true) :
    ∀ name ∈ names, HasFileOrNothing files name := fun name hname => by
  have hsome := List.all_eq_true.mp h name hname
  unfold HasFileOrNothing
  cases hfile : files (Path.ofString name) with
  | error _ => simp [hfile, Except.toOption] at hsome
  | ok bytes => exact .inr ⟨bytes, rfl⟩

/-- The content of a file is what the file system holds under its path. -/
theorem fileContent_eq_ok_iff {files : Files} {name : String} {bytes : List UInt8} :
    fileContent files name = .ok bytes ↔ files (Path.ofString name) = .ok bytes := by
  simp only [fileContent]
  split <;> simp_all

/-- Where nothing else can be in place of a file, it is read or missing. -/
theorem fileContent_ne_failure {files : Files} {name : String} (h : HasFileOrNothing files name)
    (f : Failure) : fileContent files name ≠ .error (.failure f) := by
  rcases h with h | ⟨bytes, h⟩ <;> simp [fileContent, h]

/-! ### What a command works on -/

/-- A sequence has a value if its first step has one and the next has one for that. -/
private theorem bind_eq_ok_iff {ε α β : Type} {r : Except ε α} {next : α → Except ε β} {b : β} :
    r >>= next = .ok b ↔ ∃ a, r = .ok a ∧ next a = .ok b := by
  cases r <;> simp [bind, Except.bind]

/-- A sequence goes wrong in its first step or in the next. -/
private theorem bind_eq_error_iff {ε α β : Type} {r : Except ε α} {next : α → Except ε β} {e : ε} :
    r >>= next = .error e ↔ r = .error e ∨ ∃ a, r = .ok a ∧ next a = .error e := by
  cases r <;> simp [bind, Except.bind]

/-- Reads the data of a file. -/
def readData (name : String) (bytes : List UInt8) : Except Failure Value :=
  (Data.Input.bytes bytes none).read none (some name)

/-- What the names of a command lead to: its template, and its data, of which there may be none. -/
inductive LeadTo (files : Files) : List String → List UInt8 → Entries → Prop
  | template {template : String} {source : List UInt8} :
    files (Path.ofString template) = .ok source → LeadTo files [template] source []
  | nothing {template data : String} {source bytes : List UInt8} :
    files (Path.ofString template) = .ok source → files (Path.ofString data) = .ok bytes →
    readData data bytes = .ok .undefined → LeadTo files [template, data] source []
  | mapping {template data : String} {source bytes : List UInt8} {entries : Entries} :
    files (Path.ofString template) = .ok source → files (Path.ofString data) = .ok bytes →
    readData data bytes = .ok (.map entries) → LeadTo files [template, data] source entries

/-- Reading the data of a command raises something that is no failure of the engine. -/
inductive Raises (files : Files) : List String → Failure → Prop
  | data {template data : String} {source bytes : List UInt8} {f : Failure} :
    files (Path.ofString template) = .ok source → files (Path.ofString data) = .ok bytes →
    readData data bytes = .error f → f.isOwn = false → Raises files [template, data] f

/-- The names of a command lead to data that are a text in a format. -/
def DataAreIn (files : Files) (names : List String) (format : Data.Format) (text : String) : Prop :=
  ∃ template data bytes, names = [template, data] ∧ files (Path.ofString data) = .ok bytes
    ∧ Data.Input.AreIn bytes data format text

/-- Nothing in the data that the names of a command lead to lies in itself. -/
def DataAreFinite (files : Files) (names : List String) : Prop :=
  ∀ format text, DataAreIn files names format text → format.isFinite text = true

/-- Whether nothing in the data that a file may hold lies in itself. -/
def isFiniteFile (files : Files) (name : String) : Bool :=
  match files (Path.ofString name) with
  | .error _ => true
  | .ok bytes =>
    match (Data.Input.bytes bytes none).decode with
    | .error _ => true
    | .ok text => (Data.Format.detect? (some name) (some text)).all (·.isFinite text)

/-- It can be computed from the files whether data are finite. -/
theorem dataAreFinite_of_all {files : Files} {names : List String}
    (h : names.all (isFiniteFile files) = true) : DataAreFinite files names := by
  rintro format text ⟨template, data, bytes, rfl, hbytes, htext, hformat⟩
  have hdata := List.all_eq_true.mp h data (by simp)
  simpa [isFiniteFile, hbytes, htext, hformat] using hdata

/-- What is raised is of the kinds that the format of the data stands for. -/
theorem Raises.exists_format {files : Files} {names : List String} {f : Failure}
    (hfinite : DataAreFinite files names) (h : Raises files names f) :
    ∃ format text, DataAreIn files names format text ∧ f.kind ∈ format.raises := by
  obtain ⟨-, hbytes, hread, hown⟩ := h
  have hdata := fun format text hin => hfinite format text ⟨_, _, _, rfl, hbytes, hin⟩
  rcases Data.Input.kind_of_read hdata hread with h | ⟨format, text, hin, hkind⟩
  · rw [hown] at h
    cases h
  · exact ⟨format, text, ⟨_, _, _, rfl, hbytes, hin⟩, hkind⟩

/-- What a command makes of data as they were read. -/
def entriesIn (name : String) : Except Failure Value → Except Obstacle Entries
  | .ok .undefined => .ok []
  | .ok (.map entries) => .ok entries
  | .ok v => .error (.failure (.notAMapping name v.typeName))
  | .error f => .error (.failure f)

/-- Data are read from the content of their file and have to be entries. -/
theorem dataOf_eq (files : Files) (name : String) :
    dataOf files name
      = fileContent files name >>= fun bytes => entriesIn name (readData name bytes) := by
  refine congrArg (fileContent files name >>= ·) (funext fun bytes => ?_)
  unfold entriesIn readData
  split <;> simp_all [pure, Except.pure, throw, throwThe, MonadExceptOf.throw]

/-- No data at all are no entries, and a mapping is its own. -/
theorem entriesIn_eq_ok_iff {name : String} {r : Except Failure Value} {entries : Entries} :
    entriesIn name r = .ok entries
      ↔ r = .ok .undefined ∧ entries = [] ∨ r = .ok (.map entries) := by
  unfold entriesIn
  split <;> simp_all [eq_comm]

/-- What goes wrong with entries is that they are none, or what went wrong with the data before. -/
theorem entriesIn_eq_failure {name : String} {r : Except Failure Value} {f : Failure}
    (h : entriesIn name r = .error (.failure f)) : f.isOwn = true ∨ r = .error f := by
  unfold entriesIn at h
  split at h
  all_goals cases h
  · exact .inl rfl
  · exact .inr rfl

/-- A command loads what its names lead to. -/
theorem load_eq_ok_iff {files : Files} {c : Command} {source : List UInt8} {data : Entries} :
    c.load files = .ok (source, data) ↔ LeadTo files c.names source data := by
  obtain ⟨format, template, name?⟩ := c
  -- A step that gives something has been given something by each step before it.
  simp only [load, bind_eq_ok_iff, fileContent_eq_ok_iff]
  cases name? with
  | none =>
    constructor
    · rintro ⟨_, hsource, h⟩
      cases h
      exact .template hsource
    · rintro ⟨hsource⟩
      exact ⟨_, hsource, rfl⟩
  | some name =>
    simp only [dataOf_eq, bind_eq_ok_iff, fileContent_eq_ok_iff, entriesIn_eq_ok_iff]
    constructor
    · rintro ⟨_, hsource, _, ⟨_, hbytes, ⟨hread, rfl⟩ | hread⟩, h⟩
      · cases h
        exact .nothing hsource hbytes hread
      · cases h
        exact .mapping hsource hbytes hread
    · rintro (_ | ⟨hsource, hbytes, hread⟩ | ⟨hsource, hbytes, hread⟩)
      · exact ⟨_, hsource, _, ⟨_, hbytes, .inl ⟨hread, rfl⟩⟩, rfl⟩
      · exact ⟨_, hsource, _, ⟨_, hbytes, .inr hread⟩, rfl⟩

/-- A failure that is raised by reading data is none of the command's own, so loading ends with it.
-/
theorem load_of_raises {files : Files} {c : Command} {f : Failure} (h : Raises files c.names f) :
    c.load files = .error (.failure f) ∧ f.isOwn = false := by
  obtain ⟨format, template, name?⟩ := c
  generalize hnames : names ⟨format, template, name?⟩ = names at h
  obtain ⟨hsource, hbytes, hread, hown⟩ := h
  cases name? with
  | none => cases hnames
  | some name =>
    cases hnames
    refine ⟨?_, hown⟩
    simp only [load, dataOf_eq, fileContent_eq_ok_iff.mpr hsource, fileContent_eq_ok_iff.mpr hbytes,
      hread, entriesIn, bind, Except.bind]

/-- Nothing but reading data raises anything, as long as no file is in the way. -/
theorem load_eq_failure {files : Files} {c : Command}
    (hfiles : ∀ name ∈ c.names, HasFileOrNothing files name) {f : Failure}
    (h : c.load files = .error (.failure f)) : f.isOwn = true ∨ Raises files c.names f := by
  obtain ⟨format, template, name?⟩ := c
  rcases bind_eq_error_iff.mp h with h | ⟨source, hsource, h⟩
  · exact absurd h (fileContent_ne_failure (hfiles _ List.mem_cons_self) f)
  -- The template is read first, so from here on only data can go wrong.
  cases name? with
  | none => cases h
  | some name =>
    rcases bind_eq_error_iff.mp h with h | ⟨_, _, h⟩
    · rw [dataOf_eq] at h
      rcases bind_eq_error_iff.mp h with h | ⟨bytes, hbytes, h⟩
      · exact absurd h (fileContent_ne_failure (hfiles _ (by simp [names])) f)
      · rcases entriesIn_eq_failure h with hown | hread
        · exact .inl hown
        · -- A failure of the engine itself is told apart from one that reading has raised.
          cases hown : f.isOwn with
          | true => exact .inl rfl
          | false =>
            exact .inr (.data (fileContent_eq_ok_iff.mp hsource) (fileContent_eq_ok_iff.mp hbytes)
              hread hown)
    · cases h

/-! ### How a command ends -/

/-- The document of a template with data in a format. -/
def Renders (format : Format) (source : List UInt8) (data : Entries) (text : String) : Prop :=
  (Engine.processSource ⟨[], format.output⟩ (some (.bytes source)) (.map data)).1 = .ok text

/-- The names of a command lead to a template and data that render in a format. -/
def Fills (files : Files) (format : Format) (names : List String) (text : String) : Prop :=
  ∃ source data, LeadTo files names source data ∧ Renders format source data text

/-- A command that has loaded its files fills the template, and prints the text or the report. -/
theorem run_of_load {files : Files} {c : Command} {source : List UInt8} {data : Entries}
    (h : c.load files = .ok (source, data)) :
    (c.run files).1 =
      match (Engine.processSource ⟨[], c.format.output⟩ (some (.bytes source)) (.map data)).1 with
      | .ok text => .ok ⟨0, text ++ "\n", ""⟩
      | .error f => .ok (failed 1 (Report.ofFailure f (sourceText (some (.bytes source)))).formatted)
    := by
  simp only [run, h, Engine.report]
  rcases Engine.processSource _ _ _ with ⟨_ | _, _⟩ <;> rfl

/-- A template that is filled is printed with status zero. -/
theorem run_of_fills {files : Files} {c : Command} {text : String}
    (h : Fills files c.format c.names text) : (c.run files).1 = .ok ⟨0, text ++ "\n", ""⟩ := by
  obtain ⟨source, data, hlead, htext⟩ := h
  rw [run_of_load (load_eq_ok_iff.mpr hlead), htext]

/-- What reading the data raises escapes the command. -/
theorem run_of_raises {files : Files} {c : Command} {f : Failure} (h : Raises files c.names f) :
    (c.run files).1 = .error f := by
  obtain ⟨hload, hown⟩ := load_of_raises h
  simp [run, hload, hown]

/-- A command that has no document to write and is not ended by its data tells about an error. -/
theorem run_of_not {files : Files} {c : Command}
    (hfiles : ∀ name ∈ c.names, HasFileOrNothing files name)
    (hfills : ∀ text, ¬ Fills files c.format c.names text)
    (hraises : ∀ f, ¬ Raises files c.names f) :
    ∃ message, message ≠ "" ∧ (c.run files).1 = .ok (failed 1 message) := by
  rcases hload : c.load files with (path | f) | ⟨source, data⟩
  · exact ⟨"Error: file not found: " ++ path, by simp, by simp [run, hload]⟩
  · have hown := (load_eq_failure hfiles hload).resolve_right (hraises f)
    exact ⟨"Error: " ++ f.message, by simp, by simp [run, hload, hown]⟩
  · rw [run_of_load hload]
    split
    case h_1 text htext => exact absurd ⟨source, data, load_eq_ok_iff.mp hload, htext⟩ (hfills text)
    case h_2 f _ => exact ⟨_, Report.formatted_ofFailure_ne_empty f _, rfl⟩

/-- A command ends in one of three ways. -/
theorem run_cases {files : Files} {c : Command}
    (hfiles : ∀ name ∈ c.names, HasFileOrNothing files name) :
    (∃ text, Fills files c.format c.names text ∧ (c.run files).1 = .ok ⟨0, text ++ "\n", ""⟩)
    ∨ (∃ f, Raises files c.names f ∧ (c.run files).1 = .error f)
    ∨ (∀ text, ¬ Fills files c.format c.names text) ∧ (∀ f, ¬ Raises files c.names f)
      ∧ ∃ message, message ≠ "" ∧ (c.run files).1 = .ok (failed 1 message) := by
  by_cases hfills : ∃ text, Fills files c.format c.names text
  · obtain ⟨text, htext⟩ := hfills
    exact .inl ⟨text, htext, run_of_fills htext⟩
  by_cases hraises : ∃ f, Raises files c.names f
  · obtain ⟨f, hf⟩ := hraises
    exact .inr (.inl ⟨f, hf, run_of_raises hf⟩)
  rw [not_exists] at hfills hraises
  exact .inr (.inr ⟨hfills, hraises, run_of_not hfiles hfills hraises⟩)

/-- With files or nothing under its names, a command prints the document if and only if the template
can be filled. -/
theorem run_eq_document_iff {files : Files} {c : Command}
    (hfiles : ∀ name ∈ c.names, HasFileOrNothing files name) {text : String} :
    (c.run files).1 = .ok ⟨0, text ++ "\n", ""⟩ ↔ Fills files c.format c.names text := by
  refine ⟨fun h => ?_, run_of_fills⟩
  rcases run_cases hfiles with ⟨_, hfills, hends⟩ | ⟨_, _, hends⟩ | ⟨_, _, _, _, hends⟩
  · rw [hends] at h
    simp only [Except.ok.injEq, CommandResult.mk.injEq, String.append_left_inj] at h
    exact h.2.1 ▸ hfills
  · cases hends.symm.trans h
  · cases hends.symm.trans h

/-- With files or nothing under its names, a failure escapes if and only if reading the data raises
it. -/
theorem run_eq_error_iff {files : Files} {c : Command}
    (hfiles : ∀ name ∈ c.names, HasFileOrNothing files name) {f : Failure} :
    (c.run files).1 = .error f ↔ Raises files c.names f := by
  refine ⟨fun h => ?_, run_of_raises⟩
  rcases run_cases hfiles with ⟨_, _, hends⟩ | ⟨_, hraises, hends⟩ | ⟨_, _, _, _, hends⟩
  · cases hends.symm.trans h
  · cases hends.symm.trans h
    exact hraises
  · cases hends.symm.trans h

/-- A command never gives the usage. -/
theorem run_ne_usage {files : Files} {c : Command}
    (hfiles : ∀ name ∈ c.names, HasFileOrNothing files name) :
    (c.run files).1 ≠ .ok (failed 2 usage) := by
  intro h
  rcases run_cases hfiles with ⟨_, _, hends⟩ | ⟨_, _, hends⟩ | ⟨_, _, _, _, hends⟩
  all_goals cases hends.symm.trans h

/-- A result that is there is the result. -/
private theorem eq_ok_of_toOption {ε α : Type} {r : Except ε α} {a : α}
    (h : r.toOption = some a) : r = .ok a := by
  cases r with
  | error _ => cases h
  | ok _ => exact congrArg _ (Option.some.inj h)

/-- A template that greets, and data that say whom. -/
def greetingFiles : Files := Files.ofList [
  (Path.ofString "page.xml", Text.utf8Bytes
    "<p xmlns:tal=\"http://xml.zope.org/namespaces/tal\" tal:content=\"string:Hello $name\"/>"),
  (Path.ofString "data.yaml", Text.utf8Bytes "name: world\n")]

/-- The template has nothing to do, and the data are an empty text that is said to be an integer. -/
def emptyIntegerFiles : Files := Files.ofList [
  (Path.ofString "t.xml", Text.utf8Bytes "<p/>"),
  (Path.ofString "d.yaml", Text.utf8Bytes "a: !!int ''\n")]

end Command

end AttrTemplates
