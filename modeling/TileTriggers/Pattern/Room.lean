import TileTriggers.Pattern.Basic

/-!
# The Room that Patterns Take

A counted repetition is short to write and long to carry out, and counts within
counts multiply. A pattern is therefore only accepted if it does not unfold to more
than ten mebibytes. Counted are the states of a machine that reads a text byte by
byte, at thirty-two bytes each, and the steps and alternatives that some states
carry, at eight and four bytes each.

A set of characters unfolds to the sequences of byte ranges that make up its
encoded characters. Sequences share the ranges that they begin with.

## Main definitions

* `Pattern.byteSequences`: The sequences of a set.
* `Pattern.room`: The bytes that a pattern unfolds to.
* `Pattern.maxRoom`: How many are accepted.
-/

namespace TileTriggers

namespace Pattern

/-- A sequence of ranges of bytes, by what the bytes add to their first values. -/
abbrev ByteSequence := List (Nat × Nat)

/-- The sequences for a range of numbers that are written as a first byte and so many
    further bytes of six bits. -/
def sixBitSequences : Nat → Nat → Nat → List ByteSequence
  | 0, low, high => [[(low, high)]]
  | n + 1, low, high =>
    let unit := Nat.pow 64 (n + 1)
    let (first, last) := (low / unit, high / unit)
    if first = last then
      (sixBitSequences n (low % unit) (high % unit)).map ((first, first) :: ·)
    else
      let below := low % unit = 0
      let above := high % unit = unit - 1
      let inner := (if below then first else first + 1, if above then last else last - 1)
      (if below then []
        else (sixBitSequences n (low % unit) (unit - 1)).map ((first, first) :: ·)) ++
      (if inner.1 ≤ inner.2 then [inner :: List.replicate (n + 1) (0, 63)] else []) ++
      (if above then []
        else (sixBitSequences n 0 (high % unit)).map ((last, last) :: ·))

/-- The code points that are encoded in one byte, two, three and four, the three
    bytes on either side of the surrogates. -/
def encodedRanges : List (Nat × Nat × Nat) :=
  [(0, 0, 0x7f), (1, 0x80, 0x7ff), (2, 0x800, 0xd7ff), (2, 0xe000, 0xffff),
    (3, 0x10000, 0x10ffff)]

/-- The sequences of a set, in order. -/
def byteSequences (set : Text.Ranges) : List ByteSequence :=
  set.flatMap fun (low, high) =>
    encodedRanges.flatMap fun (more, first, last) =>
      if max low first ≤ min high last then
        sixBitSequences more (max low first) (min high last)
      else []

/-- How many ranges two sequences of one length begin with in common. -/
def shared : ByteSequence → ByteSequence → Nat
  | a :: s, b :: t => if a = b then shared s t + 1 else 0
  | _, _ => 0

/-- The number of states for some sequences, given the one before them. -/
def stateCount : ByteSequence → List ByteSequence → Nat
  | _, [] => 0
  | former, s :: rest =>
    (s.length - (if former.length = s.length then shared former s else 0)) + stateCount s rest

/-- The bytes that a set of characters unfolds to. A single character is spelled out,
    and a set of ASCII characters is one state with a step for each range. -/
def setRoom (set : Text.Ranges) : Nat :=
  let sequences := byteSequences set
  match set, sequences with
  | [(low, high)], s :: _ =>
    if low = high then 32 * s.length
    else if high < 0x80 then 64 + 8
    else 64 + 32 * stateCount [] sequences + 4 * sequences.length
  | _, _ =>
    if set.all fun range => range.2 < 0x80 then 64 + 8 * set.length
    else 64 + 32 * stateCount [] sequences + 4 * sequences.length

/-- Whether a pattern is a choice. The choices of a chain of them unfold to one. -/
def isChoice : Pattern → Bool
  | .alt .. => true
  | _ => false

/-- The bytes that a pattern unfolds to. -/
def room : Pattern → Nat
  | .empty => 32
  | .one set => setRoom set
  | .edge _ => 32
  | .seq p q => p.room + q.room
  | .alt p q => p.room + 4 + q.room + if q.isChoice then 0 else 68
  | .repeated p least none => if least = 0 then p.room + 40 else least * p.room + 40
  | .repeated p least (some most) =>
    if least = most then if most = 0 then 32 else most * p.room
    else least * p.room + (most - least) * (p.room + 40) + 32
  | .group p => p.room + 64

/-- The number of bytes to which a pattern may unfold. -/
def maxRoom : Nat := 10 * Nat.pow 2 20

end Pattern

end TileTriggers
