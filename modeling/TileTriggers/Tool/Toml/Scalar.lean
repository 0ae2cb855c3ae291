import TileTriggers.Text.Numeral
import TileTriggers.Tool.Toml.Value

/-!
# TOML Scalars

Numbers, truth values, dates and times: the values that are written without
delimiters. They are read as whole tokens, whatever follows being cut off before.

Digits may be grouped by underscores, each with a digit on either side. A decimal
number has no superfluous zero in front. An integer has to fit a signed machine
word, and a number with a fraction or an exponent a floating point number.

## Main definitions

* `Toml.scalar?`: The value of a token.
-/

namespace TileTriggers

namespace Toml

/-- The digits of a group of digits, without the underscores between them. -/
def ungrouped? (isDigit : Char → Bool) (cs : List Char) : Option (List Char) :=
  let groups := cs.splitOn '_'
  if groups.all fun group => !group.isEmpty && group.all isDigit then some groups.flatten else none

/-- A sign and what follows it. -/
def signed : List Char → Option Bool × List Char
  | '-' :: cs => (some true, cs)
  | '+' :: cs => (some false, cs)
  | cs => (none, cs)

/-- The digits of a decimal number without superfluous zeros. -/
def wholeDigits? (cs : List Char) : Option (List Char) := do
  let digits ← ungrouped? Char.isDigit cs
  if digits.length = 1 ∨ digits.head? ≠ some '0' then some digits else none

/-- The largest integer of a document. -/
def maxInteger : Nat := Nat.pow 2 63 - 1

/-- An integer, in decimal or with the prefix of its base. -/
def integer? (token : List Char) : Option Node :=
  let inBase (base : Nat) (cs : List Char) : Option Node := do
    let n := Numeral.value base (← ungrouped? (Numeral.isDigitOf base) cs)
    if n ≤ maxInteger then some (.integer n) else none
  match token with
  | '0' :: 'x' :: cs => inBase 16 cs
  | '0' :: 'o' :: cs => inBase 8 cs
  | '0' :: 'b' :: cs => inBase 2 cs
  | cs => do
    let (sign, cs) := signed cs
    let n := Numeral.value 10 (← wholeDigits? cs)
    if sign = some true then
      if n ≤ maxInteger + 1 then some (.integer (-n)) else none
    else if n ≤ maxInteger then some (.integer n) else none

/-- The power of ten that an exponent stands for, its letter included. Without an
    exponent it is zero. -/
def power? : List Char → Option Int
  | [] => some 0
  | _ :: cs =>
    let (sign, cs) := signed cs
    (ungrouped? Char.isDigit cs).map fun digits =>
      let n : Int := Numeral.value 10 digits
      if sign = some true then -n else n

/-- A floating point number. It has a fraction or an exponent, and is refused if it
    is too large. -/
def float? (token : List Char) : Option Node := do
  let (sign, cs) := signed token
  let negative := sign = some true
  if cs = ['i', 'n', 'f'] then return .float (.infinite negative)
  if cs = ['n', 'a', 'n'] then return .float .notANumber
  let (mantissa, exponent) := cs.span fun c => c != 'e' && c != 'E'
  let power ← power? exponent
  match mantissa.splitOn '.' with
  | [whole] =>
    if exponent.isEmpty then none
    else
      let value ← Binary64.ofDecimal? negative (Numeral.value 10 (← wholeDigits? whole)) power
      return .float value
  | [whole, fraction] =>
    let whole ← wholeDigits? whole
    let fraction ← ungrouped? Char.isDigit fraction
    let digits := Numeral.value 10 (whole ++ fraction)
    return .float (← Binary64.ofDecimal? negative digits (power - fraction.length))
  | _ => none

/-- The value of a token without delimiters. -/
def scalar? (token : List Char) : Option Node :=
  if token = ['t', 'r', 'u', 'e'] then some (.boolean true)
  else if token = ['f', 'a', 'l', 's', 'e'] then some (.boolean false)
  else (integer? token).or ((float? token).or ((DateTime.ofToken? token).map .dateTime))

end Toml

end TileTriggers
