/-!
# Lines of a Listing

A listing is a text whose lines end in a line feed, or in a carriage return and
a line feed. The last line may lack its ending, and an ending after the last
line opens no further line: a text that is empty or ends in a line feed has no
unfinished line.

A carriage return belongs to the ending only where a line feed follows at once.
Anywhere else, at the very end of the text included, it is part of its line.

## Main definitions

* `lines`: The lines of a text, without their endings.
-/

namespace TileTriggers

namespace Text

/-- What precedes the line feed of a finished line, less the carriage return
    that may belong to the ending. -/
def dropReturn (line : List Char) : List Char :=
  if line.getLast? = some '\r' then line.dropLast else line

/-- The lines of a text. All pieces between line feeds but the last are finished
    lines; the last is an unfinished line unless nothing is in it. -/
def lines (cs : List Char) : List (List Char) :=
  let pieces := cs.splitOn '\n'
  let unfinished := pieces.getLast?.getD []
  pieces.dropLast.map dropReturn ++ if unfinished.isEmpty then [] else [unfinished]

end Text

end TileTriggers
