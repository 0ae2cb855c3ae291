/-!
# Workspaces

What a command can see of the file system: files and directories by their place
under the working directory. Commands are functions from a workspace to a
workspace, so that what a command leaves alone is a statement about its result
and not about the system it ran on.

A path is walked name by name. Every place on the way has to be a directory, also
the last one if the path ends in a slash. Names that lead out of the working
directory are kept as they are, and what lies there is only known if the
workspace was told.

## Main definitions

* `Place`: A place relative to the working directory.
* `Workspace`: What is known to be where.
* `FileError`: Why a file could not be read or written.
* `Workspace.read`, `Workspace.readText`, `Workspace.write`: Access by path.
-/

namespace TileTriggers

/-- The names that lead from the working directory to a place. The name of a
    slash alone leads to the root. -/
abbrev Place := List String

/-- What can be at a place. -/
inductive Entry
  | file (content : List UInt8)
  | directory
  deriving DecidableEq, Repr

/-- Why a file could not be read or written. -/
inductive FileError
  | notFound
  | notADirectory
  | isADirectory
  | nameTooLong
  | notUtf8
  deriving DecidableEq, Repr

/-- The wording of an error. -/
def FileError.message : FileError → String
  | .notFound => "No such file or directory (os error 2)"
  | .notADirectory => "Not a directory (os error 20)"
  | .isADirectory => "Is a directory (os error 21)"
  | .nameTooLong => "File name too long (os error 36)"
  | .notUtf8 => "stream did not contain valid UTF-8"

/-- What is known to be where. -/
structure Workspace where
  entries : List (Place × Entry)
  deriving DecidableEq, Repr

namespace Workspace

/-- The place above another one. -/
def parent (place : Place) : Place :=
  if place = ["/"] then place
  else if place.all (· == "..") then ".." :: place
  else place.dropLast

/-- What is at a place. The working directory, those above it and the root are
    directories without being listed. -/
def entry? (w : Workspace) (place : Place) : Option Entry :=
  if place.all (· == "..") || place == ["/"] then some .directory else w.entries.lookup place

/-- The longest name that a file can have, in bytes. -/
def maxNameLength : Nat := 255

/-- The longest path that is accepted, in bytes. -/
def maxPathLength : Nat := 4095

/-- Where the rest of a path leads from a place. -/
def walk (w : Workspace) (here : Place) : List String → Except FileError Place
  | [] => .ok here
  | name :: names =>
    match w.entry? here with
    | none => .error .notFound
    | some (.file _) => .error .notADirectory
    | some .directory =>
      if name = "" ∨ name = "." then walk w here names
      else if name = ".." then walk w (parent here) names
      else if maxNameLength < name.utf8ByteSize then .error .nameTooLong
      else walk w (here ++ [name]) names

/-- The names of a path between slashes, and where to begin with them. -/
def names (path : String) : Place × List String :=
  match (path.toList.splitOn '/').map String.ofList with
  | "" :: names => (["/"], names)
  | names => ([], names)

/-- The place that a path leads to. -/
def resolve (w : Workspace) (path : String) : Except FileError Place :=
  if path.isEmpty then .error .notFound
  else if maxPathLength < path.utf8ByteSize then .error .nameTooLong
  else
    let (start, names) := names path
    w.walk start names

/-- Whether a path leads to anything. -/
def pathExists (w : Workspace) (path : String) : Bool :=
  match w.resolve path with
  | .ok place => (w.entry? place).isSome
  | .error _ => false

/-- The content of the file that a path leads to. -/
def read (w : Workspace) (path : String) : Except FileError (List UInt8) := do
  match w.entry? (← w.resolve path) with
  | none => throw .notFound
  | some .directory => throw .isADirectory
  | some (.file content) => return content

/-- The content of a file as text. -/
def readText (w : Workspace) (path : String) : Except FileError String := do
  match String.fromUTF8? ⟨(← w.read path).toArray⟩ with
  | some text => return text
  | none => throw .notUtf8

/-- A workspace with a file put at a place. -/
def put (w : Workspace) (place : Place) (content : List UInt8) : Workspace :=
  ⟨(place, .file content) :: w.entries.filter (·.1 != place)⟩

/-- A path without the slashes at its end. -/
def withoutSlashes (path : String) : String :=
  String.ofList (path.toList.reverse.dropWhile (· == '/')).reverse

/-- Writes a whole file, which is created if its directory exists. A path that
    ends in a slash can only mean a directory. -/
def write (w : Workspace) (path : String) (content : List UInt8) :
    Except FileError Workspace := do
  let bare := withoutSlashes path
  let place ← w.resolve (if bare.isEmpty then path else bare)
  if bare != path then throw .isADirectory
  match w.entry? place with
  | some .directory => throw .isADirectory
  | _ => return w.put place content

end Workspace

end TileTriggers
