import AttrTemplates.Data.Format
import AttrTemplates.Files
import AttrTemplates.Template.Report

/-!
# `AttrTemplates.Command`: the command line

The command fills a template file with the data of another file and writes the document. It
always says how it went: with status 0 there is a document and nothing else, with 1 an error
message, and with 2 the usage because the arguments are wrong. Only what cannot be read for another
reason than being missing ends it without a word of its own. What it makes of data that lie in
themselves is left open.

Files are looked up in `Files`, which knows what they hold.
-/

set_option autoImplicit false

namespace AttrTemplates

/-- The outcome of a command. -/
structure CommandResult where
  status : Nat
  output : String
  errors : String
  deriving DecidableEq, Repr, Inhabited

/-- What a command is asked to do: the format to write, the template file and the data file. -/
structure Command where
  format : Format
  template : String
  data : Option String
  deriving DecidableEq, Repr, Inhabited

namespace Command

/-- How the command is used. -/
def usage : String := "usage: talrun.py [--xml] TEMPLATE [DATA]"

/-- The argument that asks for XML. -/
def xmlFlag : String := "--xml"

/-- The command that arguments mean: one or two names, and the flag anywhere among them. A first
name that looks like another flag is none. -/
def ofArguments? (arguments : List String) : Option Command :=
  let format := if arguments.contains xmlFlag then Format.xml else Format.html
  match arguments.filter (· != xmlFlag) with
  | [template] => if template.startsWith "-" then none else some ⟨format, template, none⟩
  | [template, data] => if template.startsWith "-" then none else some ⟨format, template, some data⟩
  | _ => none

/-- Why a command cannot begin: a file is missing, or its data are of no use. -/
inductive Obstacle where
  | missing (path : String)
  | failure (f : Failure)
  deriving Repr

/-- What a file holds. -/
def fileContent (files : Files) (path : String) : Except Obstacle (List UInt8) :=
  let p := Path.ofString path
  match files p with
  | .ok bytes => .ok bytes
  | .error .missing => .error (.missing p.text)
  | .error why => .error (.failure (why.failure p.text))

/-- The data that a file holds, which are a mapping or nothing at all. -/
def dataOf (files : Files) (path : String) : Except Obstacle Entries := do
  let bytes ← fileContent files path
  match (Data.Input.bytes bytes none).read none (some path) with
  | .ok .undefined => pure []
  | .ok (.map entries) => pure entries
  | .ok v => throw (.failure (.notAMapping path v.typeName))
  | .error f => throw (.failure f)

/-- What a command works on: its template and its data. -/
def load (files : Files) (c : Command) : Except Obstacle (List UInt8 × Entries) := do
  let source ← fileContent files c.template
  match c.data with
  | some path => pure (source, ← dataOf files path)
  | none => pure (source, [])

/-- A failing command. -/
def failed (status : Nat) (message : String) : CommandResult := ⟨status, "", message ++ "\n"⟩

/-- Runs a command: its outcome and what was noted. Failures of data that are none of the
engine's own end it without an outcome. For data that lie in themselves no outcome is given
either, since it is not known here. -/
def run (files : Files) (c : Command) : Except Failure CommandResult × List Event :=
  match c.load files with
  | .error (.missing path) => (.ok (failed 1 ("Error: file not found: " ++ path)), [])
  | .error (.failure f) =>
    (if f.isOwn then .ok (failed 1 ("Error: " ++ f.message)) else .error f, [])
  | .ok (source, data) =>
    let engine : Engine := ⟨[], c.format.output⟩
    let (report, events) := engine.report (some (.bytes source)) (.map data)
    match report with
    | .success text => (.ok ⟨0, text ++ "\n", ""⟩, events)
    | .failure .. => (.ok (failed 1 report.formatted), events)

/-- Runs the command that arguments mean. -/
def runArguments (files : Files) (arguments : List String) :
    Except Failure CommandResult × List Event :=
  match ofArguments? arguments with
  | some c => c.run files
  | none => (.ok (failed 2 usage), [])

end Command

end AttrTemplates
