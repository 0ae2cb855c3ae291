import TileTriggers.Script.Error
import TileTriggers.Text.Trim
import TileTriggers.Text.Word

/-!
# The Shape of a Script Line

A line is cut into an operator with its arguments on either side of THEN before
anything is known about operators. The arguments of a condition never contain
parentheses, so the first closing one ends them. The arguments of an action run
to the last parenthesis of the line, which lets a dialog carry its own.

No choice is ever left open. Blanks, words and parentheses have no character in
common, so each part ends where the next character cannot belong to it, and a
line can be cut in at most one way.

Operator words are compared here with a notion of case that is wider than ASCII:
the long s and the Kelvin sign fold to letters that occur in keywords. Such a
word passes for its keyword in the cut and is refused when it is looked up.

## Main definitions

* `Shape`: The four parts of a line, without parentheses.
* `Shape.ofLine?`: The cut.
* `LineParts`: The four parts as they were written.
* `LineParts.ofLine`: The parts of a line whose operators are known.
-/

namespace TileTriggers

/-- The two operator words of a line and what stands in their parentheses. -/
structure Shape where
  condition : List Char
  conditionArgs : List Char
  action : List Char
  actionArgs : List Char
  deriving DecidableEq, Repr

namespace Shape

/-- What follows a word that the text begins with, in whichever case. The word
    is given in lower case and in ASCII. -/
def afterWord? : List Char → List Char → Option (List Char)
  | [], cs => some cs
  | w :: ws, c :: cs => if c.toLower = w then afterWord? ws cs else none
  | _ :: _, [] => none

/-- What follows the gap of one or more blanks that the text begins with. -/
def afterGap? : List Char → Option (List Char)
  | [] => none
  | c :: cs => if Text.isBlank c then some (cs.dropWhile Text.isBlank) else none

/-- What follows a character that the text begins with. -/
def after? (expected : Char) : List Char → Option (List Char)
  | [] => none
  | c :: cs => if c = expected then some cs else none

/-- A run of one or more word characters, and what follows it. -/
def word? (cs : List Char) : Option (List Char × List Char) :=
  let (word, rest) := cs.span Text.isWord
  if word.isEmpty then none else some (word, rest)

/-- Whether a character can stand among the arguments of a condition. -/
def isPlain (c : Char) : Bool :=
  c != '(' && c != ')'

/-- The arguments that end at the last parenthesis of a text. Nothing but blanks
    follows it, and the arguments are on one line. -/
def lastArgs? (cs : List Char) : Option (List Char) := do
  let args ← after? ')' (cs.reverse.dropWhile Text.isBlank)
  if args.contains '\n' then none else some args.reverse

/-- The cut of a line. -/
def ofLine? (line : List Char) : Option Shape := do
  let cs ← afterWord? ['i', 'f'] (line.dropWhile Text.isBlank)
  let (condition, cs) ← word? (← afterGap? cs)
  let cs ← after? '(' (cs.dropWhile Text.isBlank)
  let (conditionArgs, cs) := cs.span isPlain
  let cs ← afterGap? (← after? ')' cs)
  let cs ← afterWord? ['t', 'h', 'e', 'n'] cs
  let (action, cs) ← word? (← afterGap? cs)
  let actionArgs ← lastArgs? (← after? '(' (cs.dropWhile Text.isBlank))
  return ⟨condition, conditionArgs, action, actionArgs⟩

end Shape

/-- The four parts of a line as they were written, the arguments in their
    parentheses. -/
structure LineParts where
  condition : String
  conditionArgs : String
  action : String
  actionArgs : String
  deriving DecidableEq, Repr

/-- The parts of a line that was cut. -/
def Shape.parts (s : Shape) : LineParts where
  condition := String.ofList s.condition
  conditionArgs := String.ofList ('(' :: (s.conditionArgs ++ [')']))
  action := String.ofList s.action
  actionArgs := String.ofList ('(' :: (s.actionArgs ++ [')']))

namespace LineParts

/-- The letter that a character stands for when case is ignored, as far as it is
    an ASCII letter. Besides the capitals, two characters fold to one. -/
def folded (c : Char) : Char :=
  if c = '\u017f' then 's' else if c = '\u212a' then 'k' else c.toLower

/-- Whether a word is a keyword of a vocabulary when case is ignored. -/
def passesFor (α : Type) [Vocabulary α] (word : String) : Bool :=
  (Vocabulary.words (α := α)).any fun a =>
    Vocabulary.lowered (Vocabulary.keyword a) == word.toList.map folded

/-- The parts of a line whose operator words pass for keywords. If one does not,
    the condition is blamed unless it is a keyword up to ASCII case. -/
def ofLine (line : String) : Except ScriptError LineParts :=
  match Shape.ofLine? line.toList with
  | none => .error .grammarMismatch
  | some shape =>
    let parts := shape.parts
    if passesFor ConditionOp parts.condition && passesFor ActionOp parts.action then .ok parts
    else
      match (Vocabulary.ofKeywordAnyCase? parts.condition : Option ConditionOp) with
      | none => .error (.unknownCondition parts.condition)
      | some _ => .error (.unknownAction parts.action)

end LineParts

end TileTriggers
