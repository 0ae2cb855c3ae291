import TileTriggers.Cell
import TileTriggers.Keyword
import TileTriggers.Script.Violation
import TileTriggers.Text.Trim

/-!
# Field Values

A positional argument of an operator, of whichever kind its schema asks for.
Text and payloads are read into lists of field values and written from them, so
that neither has to know the fourteen operators.

A field value can be anything its constructor admits. The rules that make it fit
for a script are in `violation?`: lists hold between one and 255 elements, spawns
name objects, and a dialog text is one line of ASCII characters without blanks at
its ends.

## Main definitions

* `FieldValue`: An argument.
* `FieldValue.kind`: Its kind.
* `FieldValue.violation?`: The first rule that it breaks.
* `FieldValue.render`: Its script text.
-/

namespace TileTriggers

/-- The most elements that a list can have, being counted by a byte. -/
def maxListLength : Nat := 255

/-- The most bytes that a dialog text can have, being counted by two bytes. -/
def maxTextLength : Nat := 65535

/-- A positional argument of an operator. -/
inductive FieldValue
  | combine (value : Combine)
  | ids (values : List UInt8)
  | cells (values : List Cell)
  | spawns (values : List Spawn)
  | order (value : Order)
  | repeat (value : Repeat)
  | millis (value : UInt32)
  | mapIndex (value : UInt8)
  | cell (value : Cell)
  | text (value : String)
  deriving DecidableEq, Repr

/-- The rule that a list of some length breaks. -/
def listViolation? (field : FieldKind) (length : Nat) : Option SchemaViolation :=
  if length = 0 then some (.emptyList field)
  else if maxListLength < length then some (.listTooLong field length)
  else none

/-- What is wrong with a dialog text. The order of the tests decides which of
    several faults is reported. -/
def textFault? (text : String) : Option TextFault :=
  let cs := text.toList
  if cs.isEmpty then some .empty
  else if maxTextLength < text.utf8ByteSize then some .tooLong
  else if cs.any fun c => 128 ≤ c.toNat || c == '\n' || c == '\r' then some .notOneAsciiLine
  else if Text.trim cs ≠ cs then some .padded
  else none

/-- Elements between brackets, separated by a comma and a space. -/
def bracketed (elements : List (List Char)) : List Char :=
  '[' :: ([',', ' '].intercalate elements ++ [']'])

namespace FieldValue

/-- The kind of an argument. -/
def kind : FieldValue → FieldKind
  | .combine _ => .combine
  | .ids _ => .idList
  | .cells _ => .cellList
  | .spawns _ => .spawnList
  | .order _ => .order
  | .repeat _ => .repeat
  | .millis _ => .millis
  | .mapIndex _ => .mapIndex
  | .cell _ => .cell
  | .text _ => .text

/-- The first rule that an argument breaks by itself. -/
def violation? : FieldValue → Option SchemaViolation
  | .ids values => listViolation? .idList values.length
  | .cells values => listViolation? .cellList values.length
  | .spawns values =>
    (listViolation? .spawnList values.length).or
      ((values.find? fun s => !s.kind.isObject).map fun s => .notAnObject s.kind)
  | .text value => (textFault? value).map .invalidText
  | _ => none

/-- The script text of an argument. -/
def render : FieldValue → List Char
  | .combine value => (Vocabulary.keyword value).toList
  | .ids values => bracketed (values.map fun id => Decimal.digits id.toNat)
  | .cells values => bracketed (values.map Cell.render)
  | .spawns values => bracketed (values.map Spawn.render)
  | .order value => (Vocabulary.keyword value).toList
  | .repeat value => (Vocabulary.keyword value).toList
  | .millis value => Decimal.digits value.toNat
  | .mapIndex value => Decimal.digits value.toNat
  | .cell value => value.render
  | .text value => value.toList

end FieldValue

end TileTriggers
