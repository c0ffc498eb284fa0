import AttrTemplates.Template.Engine
import AttrTemplates.Template.Excerpt

/-!
# `AttrTemplates.Template.Report`: rendering that always answers

A `Report` is the outcome of rendering a source: the text, or a description of the failure with
the place in the source that it points at and an excerpt around it.
-/

set_option autoImplicit false

namespace AttrTemplates

/-- The place that a failure points at. -/
structure Location where
  line : Option Int
  column : Option Int
  excerpt : Option String
  deriving DecidableEq, Repr, Inhabited

/-- The outcome of rendering a source. -/
inductive Report where
  | success (text : String)
  | failure (message : Option String) (location : Option Location)
  deriving DecidableEq, Repr, Inhabited

/-- A failure in words: its kind and its text; of an unknown type the name is enough. -/
def Failure.description (f : Failure) : String :=
  match f with
  | .unknownType name => f.kind.name ++ ": " ++ name
  | _ => f.kind.name ++ ": " ++ f.message

/-- The place in a source that a failure points at; line zero is none. -/
def Failure.location (f : Failure) (source : String) : Option Location :=
  (f.line.filter (· != 0)).map fun line =>
    ⟨some line, f.column, some (excerpt source line f.column)⟩

/-- A failure as a report about a source. -/
def Report.ofFailure (f : Failure) (source : String) : Report :=
  .failure (some f.description) (f.location source)

/-- A description of a failure with its place and excerpt. -/
def formatFailure (message : Option String) (location : Option Location) : String :=
  let text := match message.filter (!·.isEmpty) with
    | some m => m
    | none => "Unknown error"
  match location.bind fun l => (l.line.filter (· != 0)).map fun n => (l, n) with
  | none => text
  | some (l, n) =>
    let column := match l.column.filter (· != 0) with
      | some c => ", col " ++ toString c
      | none => ""
    let head := "Error on line " ++ toString n ++ column ++ ": " ++ text
    match l.excerpt.filter (!·.isEmpty) with
    | some x => head ++ "\n" ++ x
    | none => head

/-- The text that tells about a failure; a success needs none. -/
def Report.formatted : Report → String
  | success _ => ""
  | failure message location => formatFailure message location

/-- The text of a source for excerpts. -/
def sourceText : Option Xml.Source → String
  | some (.text s) => s
  | some (.bytes bs) => Text.Charset.decode .utf8 bs
  | none => ""

/-- Renders a source with data: a report in every case, and what was noted. -/
def Engine.report (e : Engine) (source : Option Xml.Source) (data : Value) :
    Report × List Event :=
  let (result, events) := e.processSource source data
  match result with
  | .ok text => (.success text, events)
  | .error f => (.ofFailure f (sourceText source), events)

end AttrTemplates
