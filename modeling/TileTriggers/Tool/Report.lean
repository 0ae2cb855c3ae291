import TileTriggers.Tool.LogFilter
import TileTriggers.Tool.Workspace

/-!
# Reports

What a run leaves behind: the lines it printed, the records it logged, why it
failed if it did, and the workspace. A failure is a chain of messages, each the
cause of the one before it.

A failed run keeps what it had printed and logged so far. It leaves the workspace
as it was, for writing is the last thing that a command does.

## Main definitions

* `Report`: What a run leaves behind.
* `MapError.chain`: The messages of an error and its causes.
-/

namespace TileTriggers

/-- What a run leaves behind. -/
structure Report where
  /-- The printed lines. -/
  printed : List String
  /-- The log. -/
  records : List Record
  /-- The messages of the failure, each the cause of the one before; none if all
      went well. -/
  failure : List String
  workspace : Workspace

namespace Report

/-- A run that went well. -/
def success (printed : List String) (records : List Record) (w : Workspace) : Report :=
  ⟨printed, records, [], w⟩

/-- A run that failed before it could change anything. -/
def failed (records : List Record) (failure : List String) (w : Workspace) : Report :=
  ⟨[], records, failure, w⟩

/-- Whether all went well. -/
def succeeded (r : Report) : Bool :=
  r.failure.isEmpty

end Report

/-- The messages of a format error and its causes. -/
def FormatError.chain (e : FormatError) : List String :=
  match e with
  | .invalid violation => [e.message, violation.message]
  | e => [e.message]

/-- The messages of an error and its causes. -/
def MapError.chain (e : MapError) : List String :=
  match e with
  | .format error => e.message :: error.chain
  | .script violation => [e.message, violation.message]
  | e => [e.message]

/-- The part of the program that an event comes from, as records name it. -/
def Event.source : Event → String
  | .allocated _ | .released _ => "raymap_map::ids"
  | _ => "raymap_map::document"

/-- The record of an event. -/
def Event.record (e : Event) : Record :=
  ⟨e.level, e.source, e.message⟩

end TileTriggers
