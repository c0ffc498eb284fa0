import AttrTemplates.Template.Output

/-!
# `AttrTemplates.Template.Engine`: templates by name

An engine keeps sources under names and renders them all to one output. Templates named in it
are in the standard language.
-/

set_option autoImplicit false

namespace AttrTemplates

/-- Named sources. -/
abbrev Library := List (String × Option Xml.Source)

/-- Puts a source under a name, in place of one that is there. -/
def Library.add (l : Library) (name : String) (source : Option Xml.Source) : Library :=
  match l with
  | [] => [(name, source)]
  | (n, s) :: rest => if n = name then (name, source) :: rest else (n, s) :: Library.add rest name source

/-- The names in order. -/
def Library.names (l : Library) : List String :=
  (l.map (·.1)).mergeSort fun a b => !(b < a)

/-- The template of a name. -/
def Library.template? (l : Library) (name : String) : Except Failure Template :=
  match l.lookup name with
  | some source => .ok (.ofSource source)
  | none => .error (.noTemplate name)

/-- An engine. -/
structure Engine where
  library : Library
  output : Output

/-- What is asked of an engine to be rendered: a template, the name of one, or something that is
neither. -/
inductive Request where
  | template (t : Template)
  | named (name : String)
  | other (v : Value)

/-- The template that a request means. -/
def Engine.template? (e : Engine) : Request → Except Failure Template
  | .template t => .ok t
  | .named name => e.library.template? name
  | .other v => .error (.notATemplate v.typeName)

/-- Renders what is asked for with data. -/
def Engine.process (e : Engine) (request : Request) (data : Value) :
    Except Failure String × List Event :=
  match e.template? request with
  | .error f => (.error f, [])
  | .ok t => e.output.fill t data

/-- Renders a source with data. -/
def Engine.processSource (e : Engine) (source : Option Xml.Source) (data : Value) :
    Except Failure String × List Event :=
  e.process (.template (.ofSource source)) data

end AttrTemplates
