import TileTriggers.Text.Ranges
import TileTriggers.Text.Word

/-!
# Patterns

A pattern describes texts: single characters of some set, places between two
characters, and sequences, choices and repetitions of patterns. It is only asked
whether it occurs anywhere in a text, so it makes no difference which of several
occurrences is found and how much of the text each takes.

The places of a text are marked all at once. A pattern turns a row of marks, the
places where it may begin, into the row of those where it can end. Each kind of
pattern has a simple effect on a row, and a repetition is done with as soon as a
row no longer changes.

## Main definitions

* `Edge`: What can be asked of a place between two characters.
* `Pattern`: A pattern.
* `Pattern.reach`: The places where a pattern can end.
* `Pattern.occursIn`: Whether a pattern occurs in a text.
-/

namespace TileTriggers

/-- What can be asked of the two sides of a place, each of which belongs to a word
    or not. -/
inductive WordEdge
  /-- Just one side belongs to a word. -/
  | boundary
  /-- Both sides do, or neither. -/
  | noBoundary
  /-- Only what follows does. -/
  | start
  /-- Only what precedes does. -/
  | finish
  /-- What precedes does not. -/
  | startHalf
  /-- What follows does not. -/
  | finishHalf
  deriving DecidableEq, Repr

/-- What can be asked of a place between two characters. -/
inductive Edge
  | textStart
  | textEnd
  /-- The start of a line, where carriage returns may count as ends of lines. -/
  | lineStart (returns : Bool)
  /-- The end of a line, where carriage returns may count as ends of lines. -/
  | lineEnd (returns : Bool)
  /-- An edge of a word, where words may be limited to ASCII. -/
  | word (edge : WordEdge) (ascii : Bool)
  deriving DecidableEq, Repr

/-- Whether a word may have a character, if there is one. -/
def isWordChar (ascii : Bool) : Option Char → Bool
  | none => false
  | some c => if ascii then c.isAlphanum || c == '_' else Text.isWord c

/-- Whether an edge is between two sides. -/
def WordEdge.holds (before after : Bool) : WordEdge → Bool
  | .boundary => before != after
  | .noBoundary => before == after
  | .start => !before && after
  | .finish => before && !after
  | .startHalf => !before
  | .finishHalf => !after

/-- Whether a place between two characters is what is asked for. A carriage return
    and a line feed together are one end of a line. -/
def Edge.holds (before after : Option Char) : Edge → Bool
  | .textStart => before.isNone
  | .textEnd => after.isNone
  | .lineStart returns =>
    before.isNone || before == some '\n' ||
      returns && before == some '\r' && after != some '\n'
  | .lineEnd returns =>
    after.isNone || (if returns then after == some '\r' || after == some '\n' && before != some '\r'
      else after == some '\n')
  | .word edge ascii => edge.holds (isWordChar ascii before) (isWordChar ascii after)

/-- A pattern. -/
inductive Pattern
  /-- The empty text. -/
  | empty
  /-- A character of a set. -/
  | one (set : Text.Ranges)
  /-- A place. -/
  | edge (edge : Edge)
  | seq (first second : Pattern)
  | alt (first second : Pattern)
  /-- At least so many times, and if there is a bound not more often than that. -/
  | repeated (inner : Pattern) (least : Nat) (most : Option Nat)
  /-- A part whose occurrence can be told from the rest. -/
  | group (inner : Pattern)
  deriving DecidableEq, Repr

namespace Pattern

/-- A mark for each place of a text, from the first to the last. -/
abbrev Marks := List Bool

/-- The marks of either of two rows. -/
def either (a b : Marks) : Marks :=
  List.zipWith (· || ·) a b

/-- The row after so many rounds, or when it no longer changes. -/
def rounds (f : Marks → Marks) : Nat → Marks → Marks
  | 0, marks => marks
  | n + 1, marks =>
    let next := f marks
    if next = marks then marks else rounds f n next

/-- The characters on both sides of each place of a text. -/
def sides (text : List Char) : List (Option Char × Option Char) :=
  (none :: text.map some).zip (text.map some ++ [none])

/-- The places where a pattern can end that begins at a marked place. As many rounds
    as there are places are as good as any larger number: a longer way stays at some
    place for at least a round, and it can do so for any number of rounds. -/
def reach (text : List Char) : Pattern → Marks → Marks
  | .empty, marks => marks
  | .one set, marks => false :: List.zipWith (fun here c => here && set.contains c) marks text
  | .edge e, marks => List.zipWith (fun here side => here && e.holds side.1 side.2) marks (sides text)
  | .seq p q, marks => reach text q (reach text p marks)
  | .alt p q, marks => either (reach text p marks) (reach text q marks)
  | .repeated p least most, marks =>
    let places := text.length + 1
    let more := match most with
      | some most => most - least
      | none => places
    rounds (fun marks => either marks (reach text p marks)) (min more places)
      (rounds (reach text p) (min least places) marks)
  | .group p, marks => reach text p marks

/-- Whether a pattern occurs in a text. -/
def occursIn (p : Pattern) (text : List Char) : Bool :=
  (reach text p (List.replicate (text.length + 1) true)).any id

end Pattern

end TileTriggers
