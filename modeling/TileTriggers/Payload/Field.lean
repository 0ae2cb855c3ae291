import TileTriggers.Payload.Cursor
import TileTriggers.Script.Field

/-!
# Field Values in Payloads

A keyword is its byte, an id and a map number are a byte each, a cell is two
bytes, a time four. Lists start with a byte that counts their elements, and a
text with two bytes that count its characters; all numbers have their most
significant byte first.

The writer does not look at limits. It is only ever used on arguments that break
no rule, and for those every count fits.

## Main definitions

* `FieldValue.encode`: The bytes of an argument.
* `Read.field`: The reader for an argument of a given kind.
-/

namespace TileTriggers

/-- The bytes of a cell. -/
def Cell.encode (c : Cell) : List UInt8 :=
  [c.x, c.y]

/-- The bytes of a spawn. -/
def Spawn.encode (s : Spawn) : List UInt8 :=
  s.kind.byte :: s.id :: s.cell.encode

/-- The byte that counts the elements of a list, unless there are too many. -/
def countByte (field : FieldKind) (length : Nat) : Except SchemaViolation UInt8 :=
  if maxListLength < length then .error (.listTooLong field length) else .ok (UInt8.ofNat length)

/-- A list behind the byte that counts its elements. -/
def counted {α : Type} (field : FieldKind) (encode : α → List UInt8) (values : List α) :
    Except SchemaViolation (List UInt8) := do
  return (← countByte field values.length) :: values.flatMap encode

/-- A text in UTF-8 behind the two bytes that count its bytes. -/
def encodeText (text : String) : Except SchemaViolation (List UInt8) :=
  if maxTextLength < text.utf8ByteSize then .error (.invalidText .tooLong)
  else .ok (bigEndian 2 text.utf8ByteSize ++ text.toList.flatMap String.utf8EncodeChar)

/-- The bytes of an argument, unless a count in front of them does not fit. -/
def FieldValue.encode : FieldValue → Except SchemaViolation (List UInt8)
  | .combine value => .ok [Vocabulary.byte value]
  | .ids values => counted .idList (fun id => [id]) values
  | .cells values => counted .cellList Cell.encode values
  | .spawns values => counted .spawnList Spawn.encode values
  | .order value => .ok [Vocabulary.byte value]
  | .repeat value => .ok [Vocabulary.byte value]
  | .millis value => .ok (bigEndian 4 value.toNat)
  | .mapIndex value => .ok [value]
  | .cell value => .ok value.encode
  | .text value => encodeText value

namespace Read

/-- A keyword of a vocabulary. -/
def keyword {α : Type} [Vocabulary α] (field : FieldKind) : Read FormatError α :=
  lookup (.unknownKeyword field) Vocabulary.ofByte?

/-- A cell. -/
def cell : Read FormatError Cell := do
  return ⟨← byte, ← byte⟩

/-- A spawn. -/
def spawn : Read FormatError Spawn := do
  return ⟨← tileType, ← byte, ← cell⟩

/-- A list behind the byte that counts its elements. -/
def list {α : Type} (element : Read FormatError α) : Read FormatError (List α) := do
  let count ← byte
  times count.toNat element

/-- A text behind the two bytes that count its characters. -/
def text : Read FormatError String := do
  let length ← number 2
  let offset ← position
  let characters ← bytes length
  if characters.all (· < 128) then
    return String.ofList (characters.map fun b => Char.ofNat b.toNat)
  else fail (.invalidText offset)

/-- An argument of a given kind. -/
def field : FieldKind → Read FormatError FieldValue
  | .combine => .combine <$> keyword .combine
  | .idList => .ids <$> list byte
  | .cellList => .cells <$> list cell
  | .spawnList => .spawns <$> list spawn
  | .order => .order <$> keyword .order
  | .repeat => .repeat <$> keyword .repeat
  | .millis => (fun n => .millis (UInt32.ofNat n)) <$> number 4
  | .mapIndex => .mapIndex <$> byte
  | .cell => .cell <$> cell
  | .text => .text <$> text

/-- The arguments of a schema, in order. -/
def fields : List FieldKind → Read FormatError (List FieldValue)
  | [] => pure []
  | kind :: kinds => do
    let value ← field kind
    return value :: (← fields kinds)

end Read

end TileTriggers
