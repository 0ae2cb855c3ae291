/-!
# Blanks and Trimming

Two notions of white space meet in a script. Between the words of a line, around
arguments and at the ends of a dialog text any character with the Unicode
property White_Space is blank. Inside an argument only the space and the tab
are, so a line break or a no-break space there is an error and not a gap.

Both are trimmed by the same function, which takes the notion as a parameter.
Scripts are read as lists of characters throughout: every reader then is a
statement about appending lists.

## Main definitions

* `isBlank`: The Unicode notion, for gaps between words.
* `isSpace`: The narrow notion, for gaps inside an argument.
* `trimBy`: A text without the white space at its ends.
* `trim`, `trimSpaces`: The two instances in use.
-/

namespace TileTriggers

namespace Text

/-- The characters with the Unicode property White_Space. -/
def blanks : List Char :=
  ['\t', '\n', '\x0b', '\x0c', '\r', ' ', '\u0085', '\u00a0', '\u1680', '\u2000', '\u2001',
    '\u2002', '\u2003', '\u2004', '\u2005', '\u2006', '\u2007', '\u2008', '\u2009', '\u200a',
    '\u2028', '\u2029', '\u202f', '\u205f', '\u3000']

/-- Whether a character is white space between words. -/
def isBlank (c : Char) : Bool :=
  blanks.contains c

/-- Whether a character is white space inside an argument. -/
def isSpace (c : Char) : Bool :=
  c == ' ' || c == '\t'

/-- A text without the characters at either end that satisfy the test. -/
def trimBy (test : Char → Bool) (cs : List Char) : List Char :=
  ((cs.dropWhile test).reverse.dropWhile test).reverse

/-- A text without the blanks at either end. -/
def trim (cs : List Char) : List Char :=
  trimBy isBlank cs

/-- A text without the spaces and tabs at either end. -/
def trimSpaces (cs : List Char) : List Char :=
  trimBy isSpace cs

/-- Whether a text holds nothing but blanks. -/
def isBlankText (cs : List Char) : Bool :=
  cs.all isBlank

end Text

end TileTriggers
