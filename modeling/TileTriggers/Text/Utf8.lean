/-!
# Lenient UTF-8

Reading bytes as text without ever failing. Wherever the bytes are not the
encoding of a character, the longest part that still could have begun one is
replaced by a single replacement character and reading goes on behind it.

How a character may continue depends on its first bytes: besides the number of
bytes, the bounds on the second byte rule out encodings that are longer than
necessary, surrogates, and numbers beyond the last code point.

## Main definitions

* `decodeLenient`: The text that some bytes are read as.
-/

namespace TileTriggers

namespace Text

/-- What stands for bytes that encode nothing. -/
def replacement : Char := '\ufffd'

/-- How a character that begins with some byte goes on: the bounds of the second
    byte, and how many bytes follow that one. -/
def continuation? (first : Nat) : Option (Nat × Nat × Nat) :=
  if 0xc2 ≤ first ∧ first ≤ 0xdf then some (0x80, 0xbf, 0)
  else if first = 0xe0 then some (0xa0, 0xbf, 1)
  else if first = 0xed then some (0x80, 0x9f, 1)
  else if 0xe1 ≤ first ∧ first ≤ 0xef then some (0x80, 0xbf, 1)
  else if first = 0xf0 then some (0x90, 0xbf, 2)
  else if first = 0xf4 then some (0x80, 0x8f, 2)
  else if 0xf1 ≤ first ∧ first ≤ 0xf3 then some (0x80, 0xbf, 2)
  else none

/-- The payload bits of the first of several bytes. -/
def firstBits (first following : Nat) : Nat :=
  first % Nat.pow 2 (5 - following)

/-- The character completed by the next bytes, of which `n` are missing, or a
    replacement for what was read of it; and the bytes that are left. -/
def complete : Nat → Nat → List UInt8 → Char × List UInt8
  | 0, bits, bytes => (Char.ofNat bits, bytes)
  | _ + 1, _, [] => (replacement, [])
  | n + 1, bits, b :: bytes =>
    if 0x80 ≤ b.toNat ∧ b.toNat ≤ 0xbf then complete n (64 * bits + (b.toNat - 0x80)) bytes
    else (replacement, b :: bytes)

/-- The next character and the bytes that are left. -/
def nextChar (first : UInt8) (bytes : List UInt8) : Char × List UInt8 :=
  if first.toNat < 0x80 then (Char.ofNat first.toNat, bytes)
  else
    match continuation? first.toNat, bytes with
    | some (low, high, following), second :: rest =>
      if low ≤ second.toNat ∧ second.toNat ≤ high then
        complete following (64 * firstBits first.toNat following + (second.toNat - 0x80)) rest
      else (replacement, bytes)
    | _, _ => (replacement, bytes)

/-- The text of some bytes, of which at most `fuel` characters are read. -/
def decodeFrom : Nat → List Char → List UInt8 → List Char
  | 0, done, _ => done.reverse
  | _ + 1, done, [] => done.reverse
  | fuel + 1, done, first :: bytes =>
    let (c, rest) := nextChar first bytes
    decodeFrom fuel (c :: done) rest

/-- The text that some bytes are read as. Every character takes at least a byte. -/
def decodeLenient (bytes : List UInt8) : List Char :=
  decodeFrom bytes.length [] bytes

end Text

end TileTriggers
