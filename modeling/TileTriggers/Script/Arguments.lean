import TileTriggers.Text.Trim

/-!
# Argument Lists

The arguments of an operator stand in parentheses and are separated by
semicolons. How many are cut off is up to the caller: once all but one of the
expected arguments are found, the rest is a single token, semicolons and all.
This is what lets a dialog text contain semicolons, and it leaves surplus
arguments in the last token where the caller can see them.

## Main definitions

* `splitAtMost`: The pieces of a text, the last one unsplit.
* `arguments?`: The tokens of an argument list.
-/

namespace TileTriggers

/-- The pieces of a text between separators, but at most `n` of them: the last
    one keeps the separators that are left. -/
def splitAtMost (n : Nat) (separator : Char) (cs : List Char) : List (List Char) :=
  let pieces := cs.splitOn separator
  if pieces.length ≤ n then pieces
  else pieces.take (n - 1) ++ [[separator].intercalate (pieces.drop (n - 1))]

/-- The text between the outermost parentheses, without blanks at its ends. -/
def insideParentheses? (args : List Char) : Option (List Char) :=
  match Text.trim args with
  | '(' :: rest => if rest.getLast? = some ')' then some (Text.trim rest.dropLast) else none
  | _ => none

/-- The tokens of an argument list, at most `fields` of them and at least room
    for one. An empty list has no tokens; without parentheses there is no list. -/
def arguments? (fields : Nat) (args : List Char) : Option (List (List Char)) :=
  (insideParentheses? args).map fun inner =>
    if inner.isEmpty then [] else (splitAtMost (max fields 1) ';' inner).map Text.trim

end TileTriggers
