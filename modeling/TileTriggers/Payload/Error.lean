import TileTriggers.Script.Violation

/-!
# Errors of Binary Data

Why bytes are not a script or not a map. Every error that concerns a place in
the data names its offset from the start of the data.

## Main definitions

* `FormatError`: What is wrong with the data.
* `FormatError.message`: Its wording.
-/

namespace TileTriggers

/-- Why binary data could not be read. -/
inductive FormatError
  | unexpectedEnd (offset : Nat)
  | unknownOperator (value : UInt8) (offset : Nat)
  | unknownKeyword (field : FieldKind) (value : UInt8) (offset : Nat)
  | unknownTileType (value : UInt8) (offset : Nat)
  | invalidText (offset : Nat)
  | trailingBytes (count : Nat)
  | invalid (violation : SchemaViolation)
  deriving DecidableEq, Repr

/-- A byte as two lower-case hexadecimal digits. -/
def hexByte (b : UInt8) : String :=
  String.ofList [Nat.digitChar (b.toNat / 16), Nat.digitChar (b.toNat % 16)]

/-- The wording of an error. -/
def FormatError.message : FormatError → String
  | .unexpectedEnd offset => s!"unexpected end of data at offset {offset}"
  | .unknownOperator value offset => s!"unknown operator {value.toNat} at offset {offset}"
  | .unknownKeyword field value offset =>
    s!"unknown {field.label} value {value.toNat} at offset {offset}"
  | .unknownTileType value offset => s!"unknown tile type 0x{hexByte value} at offset {offset}"
  | .invalidText offset => s!"text at offset {offset} is not ASCII"
  | .trailingBytes count => s!"{count} trailing bytes after the action"
  | .invalid violation => s!"decoded script is invalid: {violation.message}"

end TileTriggers
