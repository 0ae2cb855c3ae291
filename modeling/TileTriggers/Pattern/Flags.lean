import TileTriggers.Text.Folding
import TileTriggers.Text.Trim

/-!
# Flags of Patterns

Flags say how a pattern is to be read: whether case matters, what a point and the
anchors mean, and whether blanks and comments may be put in for legibility. A
pattern can set flags at any place, up to the end of the group around it.

## Main definitions

* `Pattern.Flags`: The flags.
* `Pattern.Flags.skip`: What follows blanks and comments, if these may be put in.
* `Pattern.readFlags?`: Reads letters that set and unset flags.
-/

namespace TileTriggers

namespace Pattern

/-- How a pattern is to be read. -/
structure Flags where
  /-- Case makes no difference. -/
  ignoreCase : Bool
  /-- The anchors match at the ends of lines. -/
  multiLine : Bool
  /-- A point stands for the end of a line too. -/
  dotAll : Bool
  /-- Carriage returns end lines. -/
  returns : Bool
  /-- Blanks and comments are passed over. -/
  spaced : Bool
  /-- Sets and edges of words are those of Unicode, and not of ASCII. -/
  unicode : Bool
  deriving DecidableEq, Repr

namespace Flags

/-- The flags that hold at the beginning of a pattern. -/
def initial : Flags :=
  ⟨false, false, false, false, false, true⟩

/-- What follows blanks and comments, given whether a comment has begun. -/
def skipBlanks : Bool → List Char → List Char
  | _, [] => []
  | true, c :: cs => skipBlanks (c != '\n') cs
  | false, c :: cs =>
    if Text.isBlank c then skipBlanks false cs
    else if c = '#' then skipBlanks true cs
    else c :: cs

/-- What follows blanks and comments, if these may be put in. -/
def skip (f : Flags) (cs : List Char) : List Char :=
  if f.spaced then skipBlanks false cs else cs

/-- The number of hyphens at the start of a text, and what follows them. -/
def skipHyphensWith (f : Flags) : Nat → List Char → Nat × List Char
  | fuel + 1, '-' :: cs =>
    let (n, cs) := skipHyphensWith f fuel (f.skip cs)
    (n + 1, cs)
  | _, cs => (0, cs)

/-- The number of hyphens at the start of a text, and what follows them. -/
def skipHyphens (f : Flags) (cs : List Char) : Nat × List Char :=
  skipHyphensWith f cs.length cs

/-- The first character that is no blank, where a comment counts as what it begins
    with. -/
def peekBlanks : Bool → List Char → Option Char
  | _, [] => none
  | comment, c :: cs =>
    if Text.isBlank c then peekBlanks comment cs
    else if !comment && c = '#' then peekBlanks true cs
    else some c

/-- The character that follows, behind blanks if these may be put in. -/
def peek (f : Flags) (cs : List Char) : Option Char :=
  if f.spaced then peekBlanks false cs else cs.head?

/-- The flags with the one of a letter set or unset. That of greed makes no difference
    to whether a pattern occurs. -/
def set? (f : Flags) (on : Bool) : Char → Option Flags
  | 'i' => some { f with ignoreCase := on }
  | 'm' => some { f with multiLine := on }
  | 's' => some { f with dotAll := on }
  | 'R' => some { f with returns := on }
  | 'x' => some { f with spaced := on }
  | 'u' => some { f with unicode := on }
  | 'U' => some f
  | _ => none

end Flags

/-- Reads letters up to a colon or a closing parenthesis, given those before them, with
    the flags that result and the letters. Letters behind a hyphen unset flags. There
    is one hyphen at most, something behind it, and no letter twice. -/
def readFlags? (f : Flags) (seen : List Char) : List Char → Option (Flags × List Char × List Char)
  | [] => none
  | c :: cs =>
    if c = ':' ∨ c = ')' then
      if seen.head? = some '-' then none else some (f, seen, c :: cs)
    else if seen.contains c then none
    else if c = '-' then readFlags? f ('-' :: seen) cs
    else do readFlags? (← f.set? (!seen.contains '-') c) (c :: seen) cs

end Pattern

end TileTriggers
