import TileTriggers.Text.Numeral
import TileTriggers.Text.Ranges

/-!
# Properties of Characters

The standard gives characters properties and gives the properties names: a long one
and often a short one. A table holds the names of each property and the characters
that have it. As most properties come in long tables, these are kept compact: as
hexadecimal numbers that say alternately how many code points to pass over and how
many to take.

Names are compared loosely, without regard to case, blanks, hyphens and underscores,
and the tables hold them in that form.

## Main definitions

* `Property`: A property of characters.
* `Property.ranges`: The characters that have it.
* `Property.find?`: The property of some name in a table.
-/

namespace TileTriggers

namespace Text

/-- A property of characters, with its names and the runs of its code points. -/
structure Property where
  names : List String
  runs : List String

namespace Property

/-- The characters that have a property. -/
def ranges (p : Property) : Ranges :=
  Ranges.ofRuns 0 (p.runs.flatMap fun line =>
    (line.toList.splitOn ' ').map (Numeral.value 16))

/-- The characters with the property of some name, if the table has it. -/
def find? (table : List Property) (name : String) : Option Ranges :=
  (table.find? fun p => p.names.contains name).map ranges

end Property

end Text

end TileTriggers
