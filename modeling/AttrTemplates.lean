import AttrTemplates.Text.Blank
import AttrTemplates.Text.Lines
import AttrTemplates.Text.Quoted
import AttrTemplates.Text.Upper
import AttrTemplates.Text.Word
import AttrTemplates.Text.Charset
import AttrTemplates.Expr.Arguments
import AttrTemplates.Expr.Evaluator
import AttrTemplates.Number.Digits
import AttrTemplates.Number.Shortest
import AttrTemplates.Value.Iteration
import AttrTemplates.Value.Shown
import AttrTemplates.Xml.Source
import AttrTemplates.Xml.Forest
import AttrTemplates.Xml.Html
import AttrTemplates.Xml.Scope
import AttrTemplates.Template.Language
import AttrTemplates.Template.Splice
import AttrTemplates.Template.Walk
import AttrTemplates.Template.Fragment
import AttrTemplates.Template.Argument
import AttrTemplates.Template.Directives
import AttrTemplates.Template.Edits
import AttrTemplates.Template.Basic
import AttrTemplates.Template.Output
import AttrTemplates.Template.Engine
import AttrTemplates.Template.Excerpt
import AttrTemplates.Template.Report
import AttrTemplates.Data.Json
import AttrTemplates.Data.Toml
import AttrTemplates.Data.Markup
import AttrTemplates.Data.Yaml.Document
import AttrTemplates.Data.Format
import AttrTemplates.Files
import AttrTemplates.Command
import AttrTemplates.Main
import AttrTemplates.Proofs.Run
import AttrTemplates.Proofs.Expr.Notes
import AttrTemplates.Proofs.Xml.Unprefixed
import AttrTemplates.Proofs.Template.Consumed
import AttrTemplates.Proofs.Template.Alike
import AttrTemplates.Proofs.Template.Alongside
import AttrTemplates.Proofs.Template.Inserted
import AttrTemplates.Proofs.Template.Kept
import AttrTemplates.Proofs.Template.Siblings
import AttrTemplates.Proofs.Template.Omitted
import AttrTemplates.Proofs.Template.Dispatch
import AttrTemplates.Proofs.Template.Termination
import AttrTemplates.Proofs.Template.Spliced
import AttrTemplates.Proofs.Template.Repeated
import AttrTemplates.Proofs.Template.Untouched
import AttrTemplates.Proofs.Template.Exchanged
import AttrTemplates.Proofs.Template.Rooted
import AttrTemplates.Proofs.Template.AnyOrder
import AttrTemplates.Proofs.Expr.Names
import AttrTemplates.Proofs.Template.Guarded
import AttrTemplates.Proofs.Template.Regime
import AttrTemplates.Proofs.Template.Names
import AttrTemplates.Proofs.Template.Nesting
import AttrTemplates.Proofs.Template.Loops
import AttrTemplates.Proofs.Xml.Needed
import AttrTemplates.Proofs.Template.Prefixes
import AttrTemplates.Proofs.Template.Arguments
import AttrTemplates.Proofs.Xml.Attributes
import AttrTemplates.Proofs.Xml.Clean
import AttrTemplates.Proofs.Value.Plain
import AttrTemplates.Proofs.Expr.Failures
import AttrTemplates.Proofs.Template.Plain
import AttrTemplates.Proofs.Template.Failures
import AttrTemplates.Proofs.Expr.Joined
import AttrTemplates.Proofs.Value.Data
import AttrTemplates.Proofs.Expr.Lookups
import AttrTemplates.Proofs.Expr.Types
import AttrTemplates.Proofs.Template.Declared
import AttrTemplates.Proofs.Expr.Composition
import AttrTemplates.Proofs.Expr.Scanned
import AttrTemplates.Proofs.Expr.OnePass
import AttrTemplates.Proofs.Template.Definitions
import AttrTemplates.Proofs.Expr.Choices
import AttrTemplates.Proofs.Expr.Uncalled
import AttrTemplates.Proofs.Xml.Splicing
import AttrTemplates.Proofs.Template.Leaves
import AttrTemplates.Proofs.Template.Fragments
import AttrTemplates.Proofs.Xml.Fresh
import AttrTemplates.Proofs.Template.Assigned
import AttrTemplates.Proofs.Template.Warned
import AttrTemplates.Proofs.Text.Lines
import AttrTemplates.Proofs.Template.Excerpts
import AttrTemplates.Proofs.Data.Confined
import AttrTemplates.Proofs.Data.Finite
import AttrTemplates.Proofs.Data.Raised
import AttrTemplates.Proofs.Command
import AttrTemplates.Proofs.Expr.Indices
import AttrTemplates.Proofs.Template.Rows
