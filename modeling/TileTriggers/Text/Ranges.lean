/-!
# Sets of Characters as Ranges

A property of characters is given by a table of inclusive ranges of code
points in ascending order. Looking a character up stops at the first range that
does not end before it, which settles ASCII characters within a few steps.

Tables are combined like the sets they stand for. Everything comes down to two
operations: joining ranges that overlap or touch, and taking the gaps between them.

## Main definitions

* `Ranges`: A table of ranges.
* `Ranges.contains`: Whether a character lies in one of the ranges.
* `Ranges.union`, `Ranges.complement`, `Ranges.meet`, `Ranges.minus`: Sets from sets.
* `Ranges.ofRuns`: A table from how many code points to pass over and to take.
-/

namespace TileTriggers

namespace Text

/-- Inclusive ranges of code points, ascending and disjoint. -/
abbrev Ranges := List (Nat × Nat)

namespace Ranges

/-- Whether a character lies in one of the ranges: in the first one that does
    not end before it. -/
def contains (ranges : Ranges) (c : Char) : Bool :=
  match ranges.find? fun range => c.toNat ≤ range.2 with
  | none => false
  | some range => range.1 ≤ c.toNat

/-- The largest code point. -/
def lastCodePoint : Nat := 0x10ffff

/-- All code points. -/
def everything : Ranges :=
  [(0, lastCodePoint)]

/-- A range in front of others that do not begin before it, joined with those that
    it overlaps or touches. -/
def join (range : Nat × Nat) : Ranges → Ranges
  | [] => [range]
  | next :: rest =>
    if next.1 ≤ range.2 + 1 then join (range.1, max range.2 next.2) rest
    else range :: next :: rest

/-- The set of the code points in some ranges, in whatever order these are. -/
def ofPairs (pairs : List (Nat × Nat)) : Ranges :=
  (pairs.mergeSort fun a b => a.1 ≤ b.1).foldr join []

/-- The set of some characters. -/
def ofChars (cs : List Char) : Ranges :=
  ofPairs (cs.map fun c => (c.toNat, c.toNat))

/-- What lies in either of two sets. -/
def union (a b : Ranges) : Ranges :=
  ofPairs (a ++ b)

/-- The code points from `start` on that lie between the ranges. -/
def gaps (start : Nat) : Ranges → Ranges
  | [] => if start ≤ lastCodePoint then [(start, lastCodePoint)] else []
  | (low, high) :: rest =>
    if start < low then (start, low - 1) :: gaps (high + 1) rest else gaps (high + 1) rest

/-- What does not lie in a set. -/
def complement (a : Ranges) : Ranges :=
  gaps 0 a

/-- What lies in both of two sets. -/
def meet (a b : Ranges) : Ranges :=
  complement (union (complement a) (complement b))

/-- What lies in the first of two sets and not in the second. -/
def minus (a b : Ranges) : Ranges :=
  meet a (complement b)

/-- The ranges that result from alternately passing over and taking so many code
    points. -/
def ofRuns (start : Nat) : List Nat → Ranges
  | passed :: taken :: rest =>
    (start + passed, start + passed + taken - 1) :: ofRuns (start + passed + taken) rest
  | _ => []

end Ranges

end Text

end TileTriggers
