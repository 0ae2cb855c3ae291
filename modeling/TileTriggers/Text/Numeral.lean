/-!
# Numerals in Other Bases

Numbers are also spelled in binary, octal and hexadecimal, with letters of either
case for the digits from ten to fifteen.

## Main definitions

* `Numeral.isDigitOf`: Whether a character is a digit in some base.
* `Numeral.value`: The number that some digits spell.
-/

namespace TileTriggers

namespace Numeral

/-- The value of a digit up to base sixteen. -/
def digitValue (c : Char) : Nat :=
  if c.isDigit then c.toNat - '0'.toNat else c.toLower.toNat - 'a'.toNat + 10

/-- Whether a character is a digit in some base up to sixteen. -/
def isDigitOf (base : Nat) (c : Char) : Bool :=
  (c.isDigit || ('a' ≤ c.toLower && c.toLower ≤ 'f')) && digitValue c < base

/-- The number that some digits spell. -/
def value (base : Nat) (digits : List Char) : Nat :=
  digits.foldl (fun n c => base * n + digitValue c) 0

/-- The character with the code point that some hexadecimal digits spell. -/
def codePoint? (digits : List Char) : Option Char :=
  let n := value 16 digits
  if !digits.isEmpty && digits.all (isDigitOf 16) && n.isValidChar then some (Char.ofNat n)
  else none

end Numeral

end TileTriggers
