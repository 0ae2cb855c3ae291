import TileTriggers.Script.Compile
import TileTriggers.Text.Lines

/-!
# Script Listings

A listing holds one script per line. Every line is compiled on its own, so a bad
line never stops the ones after it, and the report of each line keeps the text
beside the outcome. An editor can then show an author's mistakes where they
were made.

## Main definitions

* `LineReport`: A line, its number and its outcome.
* `compileListing`: The reports of a listing.
-/

namespace TileTriggers

instance instDecidableEqExcept {ε α : Type} [DecidableEq ε] [DecidableEq α] :
    DecidableEq (Except ε α)
  | .ok a, .ok b => decidable_of_iff (a = b) (by simp)
  | .error a, .error b => decidable_of_iff (a = b) (by simp)
  | .ok _, .error _ => isFalse (by simp)
  | .error _, .ok _ => isFalse (by simp)

/-- The outcome of compiling one line of a listing. -/
structure LineReport where
  /-- The number of the line, counted from one. -/
  number : Nat
  text : String
  result : Except ScriptError Script
  deriving DecidableEq

namespace LineReport

/-- The script of a line that compiled. -/
def script? (r : LineReport) : Option Script :=
  r.result.toOption

/-- Whether a line holds nothing but blanks. Such a line is no script, but no
    mistake either. -/
def isBlank (r : LineReport) : Bool :=
  Text.isBlankText r.text.toList

/-- The report of a line with a given position among the lines. -/
def ofLine (index : Nat) (line : List Char) : LineReport :=
  let text := String.ofList line
  ⟨index + 1, text, Script.parse text⟩

end LineReport

/-- The reports of all lines of a listing, in order. -/
def compileListing (listing : String) : List LineReport :=
  (Text.lines listing.toList).mapIdx LineReport.ofLine

end TileTriggers
