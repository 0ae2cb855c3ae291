import TileTriggers.Text.Decimal

/-!
# TOML Dates and Times

A date, a time of day, or both, and with both possibly the offset of a time zone.
Every number has a fixed count of digits, a date has to be in the calendar, and a
minute may have a leap second. Seconds may be left out, and only with seconds can
there be a fraction, of which nine digits count.

A date and a time are shown in one canonical form: a capital letter between them,
a capital letter for the offset zero if it was written as a letter, and a fraction
without superfluous zeros.

## Main definitions

* `Toml.Date`, `Toml.Clock`, `Toml.Offset`: The parts.
* `Toml.DateTime`: A date, a time or both.
* `Toml.DateTime.ofToken?`: The date or time that a token spells.
* `Toml.DateTime.text`: The canonical form.
-/

namespace TileTriggers

namespace Toml

/-- A day of the calendar. -/
structure Date where
  year : Nat
  month : Nat
  day : Nat
  deriving DecidableEq, Repr

/-- A time of day. -/
structure Clock where
  hour : Nat
  minute : Nat
  second : Option Nat
  nanosecond : Option Nat
  deriving DecidableEq, Repr

/-- How far a time zone is ahead of universal time. -/
inductive Offset
  /-- Not at all, written as a letter. -/
  | zulu
  | minutes (ahead : Int)
  deriving DecidableEq, Repr

/-- A date, a time or both. -/
inductive DateTime
  | date (date : Date)
  | time (time : Clock)
  | both (date : Date) (time : Clock) (offset : Option Offset)
  deriving DecidableEq, Repr

/-- A number of exactly `width` digits within bounds, at the start of a text. More
    digits are no longer such a number. -/
def fixed? (width low high : Nat) (cs : List Char) : Option (Nat × List Char) := do
  let (digits, rest) := cs.span Char.isDigit
  let n ← Decimal.value? high digits
  if digits.length = width ∧ low ≤ n then some (n, rest) else none

/-- What follows a character. -/
def behind? (c : Char) : List Char → Option (List Char)
  | d :: cs => if d = c then some cs else none
  | [] => none

/-- The number of days of a month. -/
def daysIn (year month : Nat) : Nat :=
  if month = 2 then
    if year % 4 = 0 ∧ (year % 100 ≠ 0 ∨ year % 400 = 0) then 29 else 28
  else if month = 4 ∨ month = 6 ∨ month = 9 ∨ month = 11 then 30
  else 31

/-- A date at the start of a text. -/
def Date.read? (cs : List Char) : Option (Date × List Char) := do
  let (year, cs) ← fixed? 4 0 9999 cs
  let (month, cs) ← fixed? 2 1 12 (← behind? '-' cs)
  let (day, cs) ← fixed? 2 1 (daysIn year month) (← behind? '-' cs)
  return (⟨year, month, day⟩, cs)

/-- A fraction of a second in nanoseconds, cut off behind the ninth digit. -/
def nanoseconds? (digits : List Char) : Option Nat :=
  if digits.isEmpty then none
  else Decimal.value? (Nat.pow 10 9) (digits ++ List.replicate 9 '0' |>.take 9)

/-- A time of day at the start of a text. -/
def Clock.read? (cs : List Char) : Option (Clock × List Char) := do
  let (hour, cs) ← fixed? 2 0 23 cs
  let (minute, cs) ← fixed? 2 0 59 (← behind? ':' cs)
  match cs with
  | ':' :: cs =>
    let (second, cs) ← fixed? 2 0 60 cs
    match cs with
    | '.' :: cs =>
      let (digits, cs) := cs.span Char.isDigit
      return (⟨hour, minute, some second, some (← nanoseconds? digits)⟩, cs)
    | cs => return (⟨hour, minute, some second, none⟩, cs)
  | cs => return (⟨hour, minute, none, none⟩, cs)

/-- The offset that a whole text spells. -/
def Offset.ofToken? : List Char → Option Offset
  | ['Z'] | ['z'] => some .zulu
  | sign :: cs => do
    let (hour, cs) ← fixed? 2 0 23 cs
    let (minute, cs) ← fixed? 2 0 59 (← behind? ':' cs)
    let ahead : Int := 60 * hour + minute
    if cs ≠ [] then none
    else if sign = '+' then some (.minutes ahead)
    else if sign = '-' then some (.minutes (-ahead))
    else none
  | [] => none

/-- What can stand between a date and a time. -/
def isDateSeparator (c : Char) : Bool :=
  c == 'T' || c == 't' || c == ' '

/-- The date or time that a token spells. A time alone has no offset. -/
def DateTime.ofToken? (token : List Char) : Option DateTime :=
  match Date.read? token with
  | some (d, []) => some (.date d)
  | some (d, separator :: cs) => do
    if !isDateSeparator separator then none
    else
      let (t, cs) ← Clock.read? cs
      if cs.isEmpty then return .both d t none
      else return .both d t (some (← Offset.ofToken? cs))
  | none =>
    match Clock.read? token with
    | some (t, []) => some (.time t)
    | _ => none

/-- A number in so many digits, with zeros in front. -/
def padded (width n : Nat) : List Char :=
  let digits := Decimal.digits n
  List.replicate (width - digits.length) '0' ++ digits

/-- A date in its canonical form. -/
def Date.text (d : Date) : List Char :=
  padded 4 d.year ++ '-' :: padded 2 d.month ++ '-' :: padded 2 d.day

/-- A fraction of a second without superfluous zeros, but with one digit at least. -/
def fractionText (nanosecond : Nat) : List Char :=
  let digits := ((padded 9 nanosecond).reverse.dropWhile (· == '0')).reverse
  if digits.isEmpty then ['0'] else digits

/-- A time of day in its canonical form. -/
def Clock.text (t : Clock) : List Char :=
  padded 2 t.hour ++ ':' :: padded 2 t.minute ++
    (match t.second with
    | some second => ':' :: padded 2 second
    | none => []) ++
    (match t.nanosecond with
    | some nanosecond => '.' :: fractionText nanosecond
    | none => [])

/-- An offset in its canonical form. -/
def Offset.text : Offset → List Char
  | .zulu => ['Z']
  | .minutes ahead =>
    (if ahead < 0 then '-' else '+') ::
      (padded 2 (ahead.natAbs / 60) ++ ':' :: padded 2 (ahead.natAbs % 60))

/-- A date, a time or both in canonical form. -/
def DateTime.text (value : DateTime) : String :=
  String.ofList (match value with
    | .date d => d.text
    | .time t => t.text
    | .both d t offset => d.text ++ 'T' :: t.text ++ (offset.map Offset.text).getD [])

end Toml

end TileTriggers
