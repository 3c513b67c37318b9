import MapStyle.CommandLine
/-!
# The program

Reads files, prints the computed layers, and reports a fault on the error stream.
-/

open MapStyle

/-- The text of a file, or nothing if it cannot be read. -/
def readFile? (name : String) : IO (Option String) := do
  try
    pure (some (← IO.FS.readFile name))
  catch _ => pure none

/-- A supply of identifiers that begins at a random number. -/
def randomIdentifiers : IO Identifiers := do
  let bytes ← IO.getRandomBytes 16
  pure ⟨bytes.toList.foldl (fun n b ↦ n * 256 + b.toNat) 0⟩

/-- Computes the layers of the file that is named first, with the settings of the second. -/
def main (args : List String) : IO UInt32 := do
  let program := (← IO.appPath).toString
  let result ← match CommandLine.ofArguments program args with
    | .error fault => pure (.error fault)
    | .ok command => command.run readFile? (← randomIdentifiers)
  match result with
  | .ok text =>
    IO.print text
    return 0
  | .error fault =>
    IO.eprintln ("Error: " ++ fault.message)
    return 1
