import TileTriggers.Tool.Toml.Scalar

/-!
# TOML Strings

Strings come in four forms: with and without escapes, on one line or on several.
A string on several lines holds the ends of its lines as they are written, except
that one right behind the opening quotes is dropped. A backslash at the end of a
line joins it with the next character that is not blank.

Every step of a reader consumes at least one character, so the length of the text
is more fuel than any of them uses up.

## Main definitions

* `Toml.string?`: A string of any form at the start of a text.
* `Toml.shortString?`: One of the two forms on one line.
-/

namespace TileTriggers

namespace Toml

/-- Whether a character may not stand in a string or a comment. -/
def isControl (c : Char) : Bool :=
  (c.toNat < 0x20 && c != '\t') || c.toNat == 0x7f

/-- The character with a code point of exactly so many hexadecimal digits. -/
def codePoint? (width : Nat) (cs : List Char) : Option (Char × List Char) :=
  let digits := cs.take width
  if digits.length = width then (Numeral.codePoint? digits).map (·, cs.drop width) else none

/-- The character of an escape, behind the backslash. -/
def escape? : List Char → Option (Char × List Char)
  | 'b' :: cs => some ('\x08', cs)
  | 't' :: cs => some ('\t', cs)
  | 'n' :: cs => some ('\n', cs)
  | 'f' :: cs => some ('\x0c', cs)
  | 'r' :: cs => some ('\r', cs)
  | 'e' :: cs => some ('\x1b', cs)
  | '"' :: cs => some ('"', cs)
  | '\\' :: cs => some ('\\', cs)
  | 'x' :: cs => codePoint? 2 cs
  | 'u' :: cs => codePoint? 4 cs
  | 'U' :: cs => codePoint? 8 cs
  | _ => none

/-- A string with escapes on one line, behind the opening quote. -/
def basicString : Nat → List Char → List Char → Option (String × List Char)
  | 0, _, _ => none
  | fuel + 1, done, cs =>
    match cs with
    | [] => none
    | '"' :: rest => some (String.ofList done.reverse, rest)
    | '\\' :: rest => do
      let (c, rest) ← escape? rest
      basicString fuel (c :: done) rest
    | c :: rest => if isControl c then none else basicString fuel (c :: done) rest

/-- A string without escapes on one line, behind the opening quote. -/
def literalString (cs : List Char) : Option (String × List Char) :=
  match cs.span (· != '\'') with
  | (text, _ :: rest) => if text.any isControl then none else some (String.ofList text, rest)
  | _ => none

/-- What follows a backslash at the end of a line: the first character of a later
    line that is not a space. -/
def continued? : Nat → Bool → List Char → Option (List Char)
  | 0, _, _ => none
  | fuel + 1, newLine, cs =>
    match cs with
    | ' ' :: rest | '\t' :: rest => continued? fuel newLine rest
    | '\n' :: rest => continued? fuel true rest
    | '\r' :: '\n' :: rest => continued? fuel true rest
    | rest => if newLine then some rest else none

/-- A string on several lines, behind the opening quotes. Up to two quotes may
    stand right before the closing ones. -/
def longString (quote : Char) (escapes : Bool) :
    Nat → List Char → List Char → Option (String × List Char)
  | 0, _, _ => none
  | fuel + 1, done, cs =>
    match cs with
    | [] => none
    | '\r' :: '\n' :: rest => longString quote escapes fuel ('\n' :: '\r' :: done) rest
    | '\n' :: rest => longString quote escapes fuel ('\n' :: done) rest
    | c :: rest =>
      if c = quote then
        let quotes := (cs.takeWhile (· == quote)).length
        if quotes < 3 then longString quote escapes fuel (c :: done) rest
        else if quotes ≤ 5 then
          some (String.ofList (List.replicate (quotes - 3) quote ++ done).reverse, cs.drop quotes)
        else none
      else if escapes && c = '\\' then
        match continued? (fuel + 1) false rest with
        | some rest => longString quote escapes fuel done rest
        | none => do
          let (c, rest) ← escape? rest
          longString quote escapes fuel (c :: done) rest
      else if isControl c then none
      else longString quote escapes fuel (c :: done) rest

/-- A text without the end of a line at its start. -/
def skipFirstLine : List Char → List Char
  | '\n' :: cs => cs
  | '\r' :: '\n' :: cs => cs
  | cs => cs

/-- A string of one of the forms on one line. -/
def shortString? : List Char → Option (String × List Char)
  | '"' :: cs => basicString (cs.length + 1) [] cs
  | '\'' :: cs => literalString cs
  | _ => none

/-- A string of any form. -/
def string? : List Char → Option (String × List Char)
  | '"' :: '"' :: '"' :: cs => longString '"' true (cs.length + 1) [] (skipFirstLine cs)
  | '\'' :: '\'' :: '\'' :: cs => longString '\'' false (cs.length + 1) [] (skipFirstLine cs)
  | cs => shortString? cs

end Toml

end TileTriggers
