import TileTriggers.Tool.Commands

/-!
# The Program

The outer layer: it finds out what a run can see, hands it to the commands, and
does what their report says. Nothing is decided here.

The commands work on a workspace, so the part of the file system that a command
line mentions is looked up beforehand: every place on the way to each path, and
the content of the files.

## Main definitions

* `Program.snapshot`: What is at the places that a command line mentions.
* `main`: The program.
-/

namespace TileTriggers

namespace Program

/-- The path of a place. -/
def pathOf : Place → String
  | "/" :: names => "/" ++ "/".intercalate names
  | names => "/".intercalate names

/-- What is at a place. Whatever exists and cannot be read as a file counts as a
    directory. -/
def observe (w : Workspace) (place : Place) : IO Workspace := do
  if (w.entry? place).isSome then return w
  try
    let bytes ← IO.FS.readBinFile (pathOf place)
    return ⟨(place, .file bytes.toList) :: w.entries⟩
  catch
    | .noFileOrDirectory .. => return w
    | _ => return ⟨(place, .directory) :: w.entries⟩

/-- The places on the way of a path, looked up one after the other. -/
def follow (w : Workspace) (path : String) : IO Workspace := do
  let (start, names) := Workspace.names path
  let mut here := start
  let mut seen := w
  for name in names do
    if name = "" || name = "." then continue
    here := if name = ".." then Workspace.parent here else here ++ [name]
    seen ← observe seen here
  return seen

/-- The paths that a run mentions. -/
def mentioned (i : Invocation) : List String :=
  let files := match i.command with
    | .check listing _ => [listing]
    | .new map .. => [map]
    | .dump map _ => [map]
    | .scripts map listing => [map, listing]
  i.settingsFile :: (Settings.withExtension? i.settingsFile).toList ++ files

/-- What is at the places that a run mentions. -/
def snapshot (i : Invocation) : IO Workspace :=
  (mentioned i).foldlM follow ⟨[]⟩

/-- The environment of the program. -/
def environment : IO (List (String × String)) := do
  let content ← try IO.FS.readBinFile "/proc/self/environ" catch _ => pure ByteArray.empty
  let text := String.ofList (Text.decodeLenient content.toList)
  return (text.toList.splitOn '\x00').filterMap fun entry =>
    match entry.span (· != '=') with
    | (name, _ :: value) => some (String.ofList name, String.ofList value)
    | _ => none

/-- Writes the files that a run changed. -/
def store (former : Workspace) (w : Workspace) : IO Unit :=
  for (place, entry) in w.entries do
    if !former.entries.contains (place, entry) then
      if let .file content := entry then
        IO.FS.writeBinFile (pathOf place) ⟨content.toArray⟩

/-- Carries out a run and gives its exit code. -/
def carryOut (i : Invocation) : IO UInt32 := do
  let w ← snapshot i
  let report := i.execute w (← environment)
  for record in report.records do
    IO.eprintln ("[" ++ record.text ++ "]")
  store w report.workspace
  for line in report.printed do
    IO.println line
  if report.succeeded then return 0
  IO.eprintln ("Error: " ++ "\n  caused by: ".intercalate report.failure)
  return 1

/-- Does what a command line asks for and gives the exit code. -/
def run (arguments : List String) : IO UInt32 := do
  match Outcome.ofArguments arguments with
  | .run invocation => carryOut invocation
  | .stop .help =>
    for line in helpText do
      IO.println line
    return 0
  | .stop .version =>
    IO.println versionText
    return 0
  | .stop .misuse =>
    for line in helpText do
      IO.eprintln line
    return 2

end Program

end TileTriggers

/-- The program. -/
def main (arguments : List String) : IO UInt32 :=
  TileTriggers.Program.run arguments
