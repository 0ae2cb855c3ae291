/-!
# Decimal Numbers

Numbers in scripts are unsigned, at most one machine word wide, and written in
decimal. Leading zeros carry no meaning and any number of them is accepted, so
the length of a numeral says nothing about its value and a numeral is refused
by value alone.

The value is built digit by digit and given up as soon as it passes the limit.
No digit can bring it back below, so this is the same as comparing the whole
value, and it never builds a number larger than ten times the limit.

## Main definitions

* `digits`: The shortest numeral of a number.
* `value?`: The value of a numeral that does not exceed a limit.
-/

namespace TileTriggers

namespace Decimal

/-- The shortest decimal numeral of a number. -/
def digits (n : Nat) : List Char :=
  Nat.toDigits 10 n

/-- One more digit at the end of a number, unless it is no digit or the result
    passes the limit. -/
def push? (limit n : Nat) (c : Char) : Option Nat :=
  let m := 10 * n + (c.toNat - '0'.toNat)
  if c.isDigit ∧ m ≤ limit then some m else none

/-- The value of a numeral: one or more decimal digits whose value is at most
    the limit. -/
def value? (limit : Nat) (cs : List Char) : Option Nat :=
  if cs.isEmpty then none else cs.foldlM (push? limit) 0

end Decimal

end TileTriggers
