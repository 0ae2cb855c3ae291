import TileTriggers.Payload.Error

/-!
# Reading Binary Data

A cursor is a position in some data together with what is left to read from
there. Readers consume from the front and never look back, and a reader that
fails leaves the caller with the cursor it started from.

The position is carried along although the rest of the data would determine it:
errors name offsets, and a reader does not know how much data there was.

Readers compose as a state monad over an error type. The loader of map files has
errors of its own, so a reader can be run under a wider error type.

## Main definitions

* `Cursor`: A position and the unread data.
* `Read`: Computations that consume data and may fail.
* `Read.byte`, `Read.bytes`, `Read.number`, `Read.rest`: The primitive readers.
* `bigEndian`: The bytes that `Read.number` reads.
-/

namespace TileTriggers

/-- A position in some data and what is left to read. -/
structure Cursor where
  position : Nat
  unread : List UInt8
  deriving DecidableEq, Repr

namespace Cursor

/-- The cursor at the start of some data. -/
def start (data : List UInt8) : Cursor :=
  ⟨0, data⟩

/-- How many bytes are left. -/
def remaining (c : Cursor) : Nat :=
  c.unread.length

/-- Whether everything was read. -/
def atEnd (c : Cursor) : Bool :=
  c.unread.isEmpty

end Cursor

/-- The number that a sequence of bytes spells, the most significant first. -/
def ofBigEndian (bytes : List UInt8) : Nat :=
  bytes.foldl (fun n b => 256 * n + b.toNat) 0

/-- A number as a sequence of bytes of a given length, the most significant
    first. What does not fit is cut off at the top. -/
def bigEndian : Nat → Nat → List UInt8
  | 0, _ => []
  | width + 1, n => UInt8.ofNat (n / Nat.pow 256 width) :: bigEndian width n

/-- A computation that consumes data and may fail. -/
abbrev Read (ε : Type) := StateT Cursor (Except ε)

namespace Read

variable {ε ε' α : Type}

/-- A reader run under another type of errors. -/
def adaptError (f : ε → ε') (r : Read ε α) : Read ε' α :=
  fun c => (r c).mapError f

/-- Where the next unread byte is. -/
def position : Read ε Nat :=
  fun c => .ok (c.position, c)

/-- A reader that consumes nothing and fails. -/
def fail (error : ε) : Read ε α :=
  fun _ => .error error

/-- The next byte. -/
def byte : Read FormatError UInt8 :=
  fun c =>
    match c.unread with
    | [] => .error (.unexpectedEnd c.position)
    | b :: rest => .ok (b, ⟨c.position + 1, rest⟩)

/-- The next `n` bytes, all of them or none. -/
def bytes (n : Nat) : Read FormatError (List UInt8) :=
  fun c =>
    let taken := c.unread.take n
    if taken.length < n then .error (.unexpectedEnd c.position)
    else .ok (taken, ⟨c.position + n, c.unread.drop n⟩)

/-- The number spelled by the next `width` bytes, the most significant first. -/
def number (width : Nat) : Read FormatError Nat :=
  ofBigEndian <$> bytes width

/-- Everything that is left. -/
def rest : Read ε (List UInt8) :=
  fun c => .ok (c.unread, ⟨c.position + c.unread.length, []⟩)

/-- The results of a reader run `n` times over. -/
def times : Nat → Read ε α → Read ε (List α)
  | 0, _ => pure []
  | n + 1, r => do
    let a ← r
    return a :: (← times n r)

/-- A value found by the next byte. If there is none, the error is told the byte
    and its offset. -/
def lookup (error : UInt8 → Nat → FormatError) (find? : UInt8 → Option α) :
    Read FormatError α := do
  let offset ← position
  let value ← byte
  match find? value with
  | some a => return a
  | none => fail (error value offset)

/-- The next tile type. -/
def tileType : Read FormatError TileType :=
  lookup .unknownTileType Vocabulary.ofByte?

end Read

end TileTriggers
