import AttrTemplates.Failure
import AttrTemplates.Text.Half
import AttrTemplates.Xml.Name
import AttrTemplates.Xml.Source

/-!
# `AttrTemplates.Xml.Legal`: text that comes into documents

Text from data comes into a document only if the document may hold all its characters. Halves of
characters are told apart from other faults: the first stretch of them is reported. Source text
that says its encoding has no bytes to be read from if there are halves in it.
-/

set_option autoImplicit false

namespace AttrTemplates.Xml

/-- Lets a source pass that can be turned into bytes where it has to be. -/
def checkSource (source : Source) : Except Failure Unit :=
  match source with
  | .text s =>
    match Text.firstHalves? s, source.declaresItself with
    | some (code, first, last), true => .error (.halvesInText code first last)
    | _, _ => .ok ()
  | .bytes _ => .ok ()

/-- Lets a text pass that a document may hold. -/
def checkText (s : String) : Except Failure Unit :=
  match Text.firstHalves? s with
  | some (code, first, last) => .error (.halvesInText code first last)
  | none => if isLegalText s then .ok () else .error .illegalCharacters

end AttrTemplates.Xml
