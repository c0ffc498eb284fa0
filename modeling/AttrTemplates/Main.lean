import AttrTemplates.Command

/-!
# `AttrTemplates.Main`: the program

Reads the files that the arguments name, runs the command, and prints what it has to say.
Warnings go to the error output before everything else.
-/

set_option autoImplicit false

open AttrTemplates

/-- Why the system could not read a file, by the number it gives. -/
def unreadable (e : IO.Error) : Unreadable :=
  match e with
  | .inappropriateType _ 21 _ => .directory
  | .inappropriateType _ 20 _ => .throughFile
  | .invalidArgument _ 36 _ => .nameTooLong
  | _ => .missing

/-- Reads a file. -/
def readFile (p : Path) : IO (Except Unreadable (List UInt8)) := do
  if p.text.contains (Char.ofNat 0) then pure (.error .zeroCharacter)
  else
    try
      let bytes ← IO.FS.readBinFile p.text
      pure (.ok bytes.toList)
    catch e => pure (.error (unreadable e))

/-- Reads the files at some paths. -/
def readFiles : List Path → IO (List (Path × Except Unreadable (List UInt8)))
  | [] => pure []
  | p :: ps => do
    let here ← readFile p
    pure ((p, here) :: (← readFiles ps))

/-- The program. -/
def main (arguments : List String) : IO UInt32 := do
  let known ← readFiles (arguments.map Path.ofString)
  let files : Files := fun p => (known.lookup p).getD (.error .missing)
  let (result, events) := Command.runArguments files arguments
  for e in events do
    if e.isWarning then
      IO.eprintln ("WARNING tal.tal_template: " ++ e.text?.getD "")
  match result with
  | .ok r =>
    IO.print r.output
    IO.eprint r.errors
    pure (UInt32.ofNat r.status)
  | .error f =>
    IO.eprintln f.description
    pure 1
