import TileTriggers.Payload.Error

/-!
# Errors of Maps

Why a map could not be edited, loaded or saved, and what was found amiss in a map
that could be loaded all the same. The former are errors and leave everything as
it was; the latter are warnings that stay with the loaded document.

## Main definitions

* `CapacityError`: A limit of the map format.
* `MapError`: Why an operation on a map failed.
* `LoadWarning`: A problem that loading recovered from.
-/

namespace TileTriggers

/-- A limit of the map format that some value exceeds. -/
inductive CapacityError
  | width (width : Nat)
  | height (height : Nat)
  | scriptCount (count : Nat)
  | scriptLength (index length : Nat)
  | idsExhausted
  deriving DecidableEq, Repr

/-- The wording of an exceeded limit. -/
def CapacityError.message : CapacityError → String
  | .width w => s!"map width {w} is outside 1..=255"
  | .height h => s!"map height {h} is outside 1..=255"
  | .scriptCount count => s!"{count} valid scripts, at most 255 can be saved"
  | .scriptLength index length =>
    s!"script {index} encodes to {length} bytes, at most 65535 can be saved"
  | .idsExhausted => "all 256 object ids are in use"

/-- Why an operation on a map failed. -/
inductive MapError
  | format (error : FormatError)
  | capacity (error : CapacityError)
  | outOfBounds (x y width height : Nat)
  | duplicateObjectId (id : UInt8) (x y : Nat)
  | misplacedTile (kind : TileType) (layer : Layer) (x y : Nat)
  | script (violation : SchemaViolation)
  deriving DecidableEq, Repr

/-- The wording of an error. -/
def MapError.message : MapError → String
  | .format error => s!"malformed map: {error.message}"
  | .capacity error => error.message
  | .outOfBounds x y width height => s!"cell ({x}, {y}) is outside the {width}x{height} map"
  | .duplicateObjectId id x y =>
    s!"object id {id.toNat} at ({x}, {y}) is already used by another tile"
  | .misplacedTile kind layer x y =>
    s!"{kind.keyword} cannot be stored in the {layer.label} layer at ({x}, {y})"
  | .script violation => s!"script cannot be saved: {violation.message}"

/-- A problem found in a map file that could be loaded. -/
inductive LoadWarning
  | corruptScript (index : Nat) (error : FormatError)
  | trailingBytes (count : Nat)
  | spawnIdConflict (index : Nat) (id : UInt8)
  deriving DecidableEq, Repr

/-- The wording of a warning. -/
def LoadWarning.message : LoadWarning → String
  | .corruptScript index error => s!"script {index} is corrupt and was dropped: {error.message}"
  | .trailingBytes count => s!"{count} unread bytes after the last script"
  | .spawnIdConflict index id =>
    s!"script {index} spawns object id {id.toNat}, which a tile already uses"

end TileTriggers
