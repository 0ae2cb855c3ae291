import TileTriggers.Payload.Field
import TileTriggers.Script.Basic

/-!
# Script Payloads

The binary form of a script: the byte of the condition's operator, the
condition's arguments in the order of the schema, then the same for the action.

Writing refuses a script that breaks a rule instead of producing bytes that
would not read back. Reading checks the bytes strictly from left to right, then
that nothing is left, and the rules of the fields last of all. No byte is ever
skipped or read twice, so every script has exactly one payload.

## Main definitions

* `Script.encode`: The payload of a valid script.
* `Script.decode`: The script of a payload.
-/

namespace TileTriggers

namespace Script

/-- The payload of a script. The first broken rule is reported instead. -/
def encode (s : Script) : Except SchemaViolation (List UInt8) := do
  if let some violation := s.violation? then
    throw violation
  let condition ← s.condition.fields.mapM FieldValue.encode
  let action ← s.action.fields.mapM FieldValue.encode
  return Vocabulary.byte s.condition.op :: condition.flatten ++
    Vocabulary.byte s.action.op :: action.flatten

end Script

namespace Read

/-- One side of a script: an operator and the arguments of its schema, from which
    the side is built. -/
def side {Op Side : Type} [Vocabulary Op] (schema : Op → List FieldKind)
    (build : Op → List FieldValue → Except SchemaViolation Side) : Read FormatError Side := do
  let op : Op ← lookup .unknownOperator Vocabulary.ofByte?
  let values ← fields (schema op)
  match build op values with
  | .ok built => return built
  | .error violation => fail (.invalid violation)

/-- A condition. -/
def condition : Read FormatError Condition :=
  side ConditionOp.schema Condition.ofFields

/-- An action. -/
def action : Read FormatError Action :=
  side ActionOp.schema Action.ofFields

/-- A script, which may yet break a rule. -/
def script : Read FormatError Script := do
  return ⟨← condition, ← action⟩

end Read

/-- The script of a payload, which must be consumed to the last byte. -/
def Script.decode (data : List UInt8) : Except FormatError Script := do
  let (script, c) ← Read.script (Cursor.start data)
  if c.atEnd then
    match script.violation? with
    | some violation => throw (.invalid violation)
    | none => return script
  else throw (.trailingBytes c.remaining)

end TileTriggers
