import TileTriggers.Grammar
import TileTriggers.TileType

/-!
# Violations of a Schema

What can be wrong with field values that were read without trouble. A list may
be empty or longer than its count byte can say, a spawn may name a background
tile, a dialog text may not survive being written on a line, and a list of
values may not be what the operator takes.

The same violations arise on every way into a script, from text, from a payload
and from field values put together by hand, so they are stated here and wrapped
by the errors of each.

## Main definitions

* `TextFault`: What is wrong with a dialog text.
* `SchemaViolation`: What is wrong with a script's fields.
-/

namespace TileTriggers

/-- What can be wrong with a dialog text. -/
inductive TextFault
  | empty
  | tooLong
  | notOneAsciiLine
  | padded
  deriving DecidableEq, Repr

/-- What a fault says about the text. -/
def TextFault.message : TextFault → String
  | .empty => "is empty"
  | .tooLong => "is longer than 65535 bytes"
  | .notOneAsciiLine => "must be single-byte text on one line"
  | .padded => "has leading or trailing whitespace"

/-- A rule broken by the fields of a script. -/
inductive SchemaViolation
  | emptyList (field : FieldKind)
  | listTooLong (field : FieldKind) (length : Nat)
  | notAnObject (kind : TileType)
  | invalidText (fault : TextFault)
  | mismatch (op : Operator)
  deriving DecidableEq, Repr

/-- The wording of a violation. -/
def SchemaViolation.message : SchemaViolation → String
  | .emptyList field => s!"{field.label} must list at least one element"
  | .listTooLong field length => s!"{field.label} lists {length} elements, at most 255 fit"
  | .notAnObject kind => s!"spawn type {kind.keyword} is not an object"
  | .invalidText fault => s!"dialog text {fault.message}"
  | .mismatch op => s!"field values do not fit the {op.keyword} schema"

end TileTriggers
