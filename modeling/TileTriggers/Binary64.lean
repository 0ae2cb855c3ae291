import TileTriggers.Text.Decimal

/-!
# Binary Floating Point Numbers

A settings file may give a number with a fraction or an exponent. Such a number
is a binary64: a whole mantissa of at most 53 bits times a power of two that is
not below 2 to the -1074. A decimal that lies between two of them is the nearer
one, and of two equally near ones the one with the even mantissa, so a decimal of
many digits can turn out to be another number than it spells.

The value is kept exactly, as a mantissa and an exponent, and every comparison
is one of natural numbers. Nothing here depends on the arithmetic of a machine.

A number is shown by the fewest digits that are still read back as the same
number, and of several such texts by the one nearest to it. The digits are found
on coarser and coarser decimal grids: if any point of a grid is read back as the
number, then one of the two points next to the number is.

## Main definitions

* `Binary64`: A floating point number.
* `Binary64.ofDecimal?`: The number nearest to a decimal.
* `Binary64.roundedWord`: The nearest whole number within bounds.
* `Binary64.shortest`: The fewest digits that are read back.
* `Binary64.text`: A number in positional notation.
-/

namespace TileTriggers

/-- A floating point number with a mantissa and a power of two. -/
inductive Binary64
  /-- The mantissa times two to the exponent. -/
  | finite (negative : Bool) (mantissa : Nat) (exponent : Int)
  | infinite (negative : Bool)
  | notANumber
  deriving DecidableEq, Repr

namespace Binary64

/-- The least mantissa that uses all bits. -/
def fullMantissa : Nat := Nat.pow 2 52

/-- The least exponent. -/
def minExponent : Int := -1074

/-- The largest exponent. -/
def maxExponent : Int := 971

/-- The whole number nearest to a quotient, a half going to the even one. -/
def nearestEven (num den : Nat) : Nat :=
  let quotient := num / den
  let twice := 2 * (num % den)
  if den < twice ∨ (twice = den ∧ quotient % 2 = 1) then quotient + 1 else quotient

/-- The exponent of the largest power of two that is not above a quotient of
    positive numbers. -/
def binaryMagnitude (num den : Nat) : Int :=
  let guess : Int := num.log2 - den.log2
  if num * Nat.pow 2 (-guess).toNat < den * Nat.pow 2 guess.toNat then guess - 1 else guess

/-- The number nearest to a quotient of positive numbers, unless it is too large. -/
def ofQuotient? (negative : Bool) (num den : Nat) : Option Binary64 :=
  let exponent := max minExponent (binaryMagnitude num den - 52)
  let mantissa := nearestEven (num * Nat.pow 2 (-exponent).toNat) (den * Nat.pow 2 exponent.toNat)
  let (mantissa, exponent) :=
    if mantissa = 2 * fullMantissa then (fullMantissa, exponent + 1) else (mantissa, exponent)
  if maxExponent < exponent then none else some (.finite negative mantissa exponent)

/-- The number nearest to a mantissa times a power of ten, unless it is too large.
    Powers that are far out of reach are settled without computing them. -/
def ofDecimal? (negative : Bool) (mantissa : Nat) (exponent : Int) : Option Binary64 :=
  if mantissa = 0 ∨ mantissa.log2 + 3 * exponent < -1100 then
    some (.finite negative 0 minExponent)
  else if 400 < exponent then none
  else ofQuotient? negative (mantissa * Nat.pow 10 exponent.toNat) (Nat.pow 10 (-exponent).toNat)

/-- The nearest whole number, a half rounded up, that is neither negative nor above
    a limit. What is no number counts as zero. -/
def roundedWord (limit : Nat) : Binary64 → Nat
  | .finite negative mantissa exponent =>
    if negative then 0
    else
      let den := Nat.pow 2 (-exponent).toNat
      min limit ((2 * (mantissa * Nat.pow 2 exponent.toNat) + den) / (2 * den))
  | .infinite negative => if negative then 0 else limit
  | .notANumber => 0

/-- Whether a positive quotient is read back as the number with a mantissa and an
    exponent. It has to lie within half a step of the mantissa, where the step
    down from a power of two is only half as long. The ends of this interval
    belong to the even mantissas. -/
def readsBack (mantissa : Nat) (exponent : Int) (num den : Nat) : Bool :=
  let scaled := 4 * num * Nat.pow 2 (-exponent).toNat
  let unit := den * Nat.pow 2 exponent.toNat
  let below := if mantissa = fullMantissa ∧ minExponent < exponent then 1 else 2
  let low := (4 * mantissa - below) * unit
  let high := (4 * mantissa + 2) * unit
  if mantissa % 2 = 0 then low ≤ scaled && scaled ≤ high else low < scaled && scaled < high

/-- The point of the decimal grid with a step of ten to `place` that is read back
    as a number, if there is one, in steps. Of two points the nearer one counts, and
    the upper one if both are equally near. -/
def onGrid? (mantissa : Nat) (exponent : Int) (place : Int) : Option Nat :=
  let num := mantissa * Nat.pow 2 exponent.toNat * Nat.pow 10 (-place).toNat
  let den := Nat.pow 2 (-exponent).toNat * Nat.pow 10 place.toNat
  let lower := num / den
  let fits (steps : Nat) : Bool :=
    readsBack mantissa exponent (steps * Nat.pow 10 place.toNat) (Nat.pow 10 (-place).toNat)
  match fits lower, fits (lower + 1) with
  | true, true => if 2 * (num % den) < den then some lower else some (lower + 1)
  | true, false => some lower
  | false, true => some (lower + 1)
  | false, false => none

/-- The first grid, from coarse to fine, that has a point for a number, with that
    point. -/
def firstGrid (mantissa : Nat) (exponent : Int) : Nat → Int → Nat × Int
  | 0, place => ((onGrid? mantissa exponent place).getD 0, place)
  | finer + 1, place =>
    match onGrid? mantissa exponent place with
    | some steps => (steps, place)
    | none => firstGrid mantissa exponent finer (place - 1)

/-- The fewest digits that are read back as a positive number, as a whole number
    and the power of ten to multiply it with. The search begins at a power of ten
    above the number, and seventeen digits are always enough. -/
def shortest (mantissa : Nat) (exponent : Int) : Nat × Int :=
  let bits : Int := mantissa.log2 + exponent + 1
  firstGrid mantissa exponent 20 (bits * 30103 / 100000 + 1)

/-- A whole number with a point so many places from the right, without
    superfluous zeros behind it. -/
def pointed (number places : Nat) : List Char :=
  let digits := Decimal.digits number
  let padded := List.replicate (places + 1 - digits.length) '0' ++ digits
  let whole := padded.take (padded.length - places)
  let fraction := ((padded.drop (padded.length - places)).reverse.dropWhile (· == '0')).reverse
  if fraction.isEmpty then whole else whole ++ '.' :: fraction

/-- A number in positional notation, without a point if it is whole. -/
def text : Binary64 → String
  | .notANumber => "NaN"
  | .infinite negative => if negative then "-inf" else "inf"
  | .finite negative mantissa exponent =>
    String.ofList ((if negative then ['-'] else []) ++
      if mantissa = 0 then ['0'] else
      let (number, place) := shortest mantissa exponent
      if 0 ≤ place then Decimal.digits number ++ List.replicate place.toNat '0'
      else pointed number (-place).toNat)

end Binary64

end TileTriggers
