import MapStyle.Compute.Batch
/-!
# The command line

The program is given the file of a document and, after it, perhaps the file of the settings. It
answers with the computed layers in indented JSON. Files are read through a function, which gives
nothing for a file that cannot be read; the settings are read before the document.
-/

namespace MapStyle

/-- What the program is asked to do. -/
structure CommandLine where
  /-- The file of the document. -/
  document : String
  /-- The file of the settings. -/
  settings : Option String
  deriving Repr, DecidableEq

namespace CommandLine

/-- Reads the arguments of a program; those after the second are ignored. -/
def ofArguments (program : String) : List String → Except Fault CommandLine
  | [] => .error (.usage program)
  | document :: rest => .ok { document, settings := rest.head? }

/-- The settings and the layers that two texts hold. A text is `none` if its file cannot be read;
settings that nobody asked for have their defaults. -/
def read (settings : Option (Option String)) (document : Option String) :
    Except Fault (Config × List Layer) := do
  let config ← match settings with
    | none => pure {}
    | some none => throw .file
    | some (some text) => Config.read text
  match document with
  | none => throw .file
  | some text =>
    match Layer.readAll? text with
    | none => throw .json
    | some layers => pure (config, layers)

/-- The output of the program: the views of all layers, closed by a line end. -/
def output (views : List LayerView) : String := (Batch.toJson views).pretty ++ "\n"

variable {m : Type → Type} [Monad m]

/-- Runs the program, given a function that reads files. -/
def run (file : String → m (Option String)) (supply : Identifiers) (command : CommandLine) :
    m (Except Fault String) := do
  let settings ← match command.settings with
    | none => pure none
    | some name => some <$> file name
  let document ← file command.document
  pure do
    let (config, layers) ← read settings document
    pure (output ((Batch.compute config layers).run supply).1)

end CommandLine

end MapStyle
