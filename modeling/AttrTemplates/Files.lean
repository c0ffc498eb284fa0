import AttrTemplates.Failure
import AttrTemplates.Text.Blank

/-!
# `AttrTemplates.Files`: where files are looked up

A `Path` is a list of names to follow, from the current directory or from the root. `Files` tells
what the file at a path holds, or why it cannot be read. `Files.ofList` are files that lie alone
in the current directory: names are followed one by one, so that the first of them that leads
nowhere tells why.
-/

set_option autoImplicit false

namespace AttrTemplates

/-- A way through directories. -/
structure Path where
  /-- What the path begins with: nothing, or the slashes that mean the root. -/
  root : String
  names : List String
  deriving DecidableEq, Repr, Inhabited

namespace Path

/-- The path that a text writes. Empty names and single points are no names; exactly two slashes
in front are kept apart from one. -/
def ofString (s : String) : Path where
  root :=
    if s.startsWith "//" && !s.startsWith "///" then "//" else if s.startsWith "/" then "/" else ""
  names := ((Text.splitAt '/' s.toList).map String.ofList).filter fun n => n != "" && n != "."

/-- A path as text; the current directory is a point. -/
def text (p : Path) : String :=
  let names := "/".intercalate p.names
  if p.root.isEmpty && p.names.isEmpty then "." else p.root ++ names

/-- The longest name, in bytes. -/
def maxName : Nat := 255

/-- The longest path, in bytes. -/
def maxLength : Nat := 4095

end Path

/-- Why there is nothing to read at a path. -/
inductive Unreadable where
  | missing
  | directory
  /-- The path goes on behind a file. -/
  | throughFile
  | nameTooLong
  /-- The path holds a character that no name can have. -/
  | zeroCharacter
  deriving DecidableEq, Repr

/-- What ends a program that cannot read a path; a missing file is told apart before. -/
def Unreadable.failure (path : String) : Unreadable → Failure
  | missing => .fileProblem 2 path
  | directory => .fileProblem 21 path
  | throughFile => .fileProblem 20 path
  | nameTooLong => .fileProblem 36 path
  | zeroCharacter => .raised .valueError "embedded null byte"

/-- What the file at a path holds. -/
abbrev Files := Path → Except Unreadable (List UInt8)

namespace Files

/-- Where following a path has led. -/
inductive Spot where
  /-- Somewhere around the current directory, where there are directories alone. -/
  | outside
  /-- In the current directory by these names, the last of them first. -/
  | inside (names : List String)
  deriving DecidableEq, Repr

/-- The file with these names, the last of them first. -/
def fileAt (known : List (Path × List UInt8)) (names : List String) : Option (List UInt8) :=
  known.lookup ⟨"", names.reverse⟩

/-- Whether the names, the last of them first, lead to a file or to a directory around one. -/
def leadsSomewhere (known : List (Path × List UInt8)) (names : List String) : Bool :=
  known.any fun (p, _) => p.root.isEmpty && names.reverse.isPrefixOf p.names

/-- Follows one more name. -/
def follow (known : List (Path × List UInt8)) (spot : Spot) (name : String) :
    Except Unreadable Spot :=
  match spot with
  | .outside =>
    if name == ".." then .ok .outside
    else if name.utf8ByteSize > Path.maxName then .error .nameTooLong
    else .error .missing
  | .inside names =>
    if (fileAt known names).isSome then .error .throughFile
    else if name == ".." then .ok (match names with
      | [] => .outside
      | _ :: around => .inside around)
    else if name.utf8ByteSize > Path.maxName then .error .nameTooLong
    else if leadsSomewhere known (name :: names) then .ok (.inside (name :: names))
    else .error .missing

/-- The files of a directory that is empty otherwise. -/
def ofList (known : List (Path × List UInt8)) : Files := fun p => do
  if p.text.toList.contains (Char.ofNat 0) then throw .zeroCharacter
  if p.text.utf8ByteSize > Path.maxLength then throw .nameTooLong
  let start : Spot := if p.root.isEmpty then .inside [] else .outside
  match ← p.names.foldlM (follow known) start with
  | .outside => throw .directory
  | .inside names => match fileAt known names with
    | some bytes => pure bytes
    | none => throw .directory

end Files

end AttrTemplates
