import TileTriggers.Map.Error

/-!
# Events

What the operations on maps tell about their work. An operation does not write
to a log; it returns its events along with its result, oldest first, and whoever
called it decides which are shown. An operation that fails tells nothing.

## Main definitions

* `Event`: Something worth telling.
* `Event.level`, `Event.message`: How it is shown.
* `Logged`: A result with the events of computing it.
-/

namespace TileTriggers

/-- How much attention an event asks for. -/
inductive Level
  | error | warn | info | debug | trace
  deriving DecidableEq, Repr

namespace Level

/-- The name of a level. -/
def label : Level → String
  | .error => "ERROR"
  | .warn => "WARN"
  | .info => "INFO"
  | .debug => "DEBUG"
  | .trace => "TRACE"

/-- How much is shown when everything down to a level is. -/
def verbosity : Level → Nat
  | .error => 1
  | .warn => 2
  | .info => 3
  | .debug => 4
  | .trace => 5

end Level

/-- Something that an operation on a map tells. -/
inductive Event
  /-- An id was handed out. -/
  | allocated (id : UInt8)
  /-- An id is free again. -/
  | released (id : UInt8)
  /-- More than one spawn entry of the scripts names the id. -/
  | spawnedRepeatedly (id : UInt8)
  /-- A tile and a spawn entry name the same id. -/
  | sharedWithSpawn (id : UInt8)
  /-- Loading recovered from a problem. -/
  | recovered (warning : LoadWarning)
  /-- A map was loaded. -/
  | loaded (width height ids scripts warnings : Nat)
  /-- A map was saved. -/
  | saved (width height scripts bytes : Nat)
  deriving DecidableEq, Repr

namespace Event

/-- Clashes and problems ask for attention, the course of the work does not. -/
def level : Event → Level
  | .spawnedRepeatedly _ | .sharedWithSpawn _ | .recovered _ => .warn
  | .allocated _ | .released _ | .loaded .. | .saved .. => .debug

/-- The wording of an event. -/
def message : Event → String
  | .allocated id => s!"allocated object id {id.toNat}"
  | .released id => s!"released object id {id.toNat}"
  | .spawnedRepeatedly id => s!"object id {id.toNat} is spawned by more than one script entry"
  | .sharedWithSpawn id => s!"object id {id.toNat} is used by both a tile and a script spawn"
  | .recovered warning => warning.message
  | .loaded width height ids scripts warnings =>
    s!"loaded {width}x{height} map: {ids} object ids, {scripts} scripts, {warnings} warnings"
  | .saved width height scripts bytes =>
    s!"saved {width}x{height} map: {scripts} scripts, {bytes} bytes"

end Event

/-- A result together with the events of computing it, oldest first. -/
structure Logged (α : Type) where
  value : α
  log : List Event

/-- A result computed without an event. -/
def Logged.silent {α : Type} (value : α) : Logged α :=
  ⟨value, []⟩

end TileTriggers
