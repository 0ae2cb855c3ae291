import TileTriggers.Pattern.Class
import TileTriggers.Pattern.Room
import TileTriggers.Text.Decimal

/-!
# Reading Patterns

A pattern is a choice of branches, a branch a sequence of items, and an item a
character, a set, a place or a group, possibly repeated. A text that is no pattern
is refused, and so is one that is nested too deeply or would take too much room.

What surrounds an item cannot be looked at, and no part of a pattern can refer to
what another one was found to be: the letters and digits behind a backslash that would
ask for that mean nothing.

## Main definitions

* `Pattern.Item`: An item with how deep it is nested.
* `Pattern.branches?`: Reads the branches of a choice.
* `Pattern.ofText?`: The pattern that a text is.
-/

namespace TileTriggers

namespace Pattern

open Text (Ranges)

/-- An item with how deep it is nested. A setting of flags is an item that cannot be
    repeated. -/
structure Item where
  pattern : Pattern
  depth : Nat
  isFlags : Bool

namespace Item

/-- An item that is not made of others. -/
def basic (pattern : Pattern) : Item :=
  ⟨pattern, 0, false⟩

/-- An item around another one. -/
def around (item : Item) (pattern : Pattern) : Item :=
  ⟨pattern, item.depth + 1, false⟩

/-- The depth of something made of several items. One alone is not nested in it. -/
def depthOfAll : List Item → Nat
  | [] => 0
  | [item] => item.depth
  | items => 1 + (items.map Item.depth).foldl max 0

/-- The sequence of some items, the latest first. -/
def sequence (items : List Item) : Item :=
  ⟨match items.map Item.pattern with
    | [] => .empty
    | last :: former => former.foldl (fun rest p => .seq p rest) last,
    depthOfAll items, false⟩

/-- The set of characters that an item is, if it is one. -/
def set? (item : Item) : Option Ranges :=
  match item.pattern with
  | .one set => some set
  | _ => none

/-- The choice between some items, the latest first. One between sets of characters
    is a set. -/
def choice (items : List Item) : Item :=
  ⟨match items.mapM set?, items.map Item.pattern with
    | some sets, _ => .one (Ranges.ofPairs sets.flatten)
    | none, [] => .empty
    | none, last :: former => former.foldl (fun rest p => .alt p rest) last,
    depthOfAll items, false⟩

end Item

/-- The largest number of times that can be asked for. -/
def maxCount : Nat := Nat.pow 2 32 - 1

/-- Some decimal digits, one after the other. -/
def decimalDigits (f : Flags) : Nat → List Char → List Char × List Char
  | 0, cs => ([], cs)
  | fuel + 1, cs =>
    match cs with
    | c :: rest =>
      if c.isDigit then
        let (digits, rest) := decimalDigits f fuel (f.skip rest)
        (c :: digits, rest)
      else ([], cs)
    | [] => ([], [])

/-- A number of times, with blanks around it. -/
def count? (f : Flags) (cs : List Char) : Option (Nat × List Char) := do
  let cs := cs.dropWhile Text.isBlank
  let (digits, rest) := decimalDigits f cs.length cs
  return (← Decimal.value? maxCount digits, f.skip (rest.dropWhile Text.isBlank))

/-- How often something is repeated, between braces: so often, at least so often, or
    between two numbers. -/
def counts? (f : Flags) (cs : List Char) : Option (Nat × Option Nat × List Char) := do
  let (least, rest) ← count? f (f.skip cs)
  match rest with
  | '}' :: rest => return (least, some least, rest)
  | ',' :: rest =>
    match f.skip rest with
    | '}' :: rest => return (least, none, rest)
    | rest =>
      let (most, rest) ← count? f rest
      match rest with
      | '}' :: rest => if least ≤ most then return (least, some most, rest) else none
      | _ => none
  | _ => none

/-- The numbers of times that a sign of repetition stands for, and what follows it. A
    question mark behind it only tells which occurrence is found first. -/
def repetition? (f : Flags) : List Char → Option (Nat × Option Nat × List Char)
  | '?' :: rest => some (0, some 1, lazily rest)
  | '*' :: rest => some (0, none, lazily rest)
  | '+' :: rest => some (1, none, lazily rest)
  | '{' :: rest => do
    let (least, most, rest) ← counts? f rest
    return (least, most, lazily (f.skip rest))
  | _ => none
where
  lazily : List Char → List Char
    | '?' :: rest => rest
    | rest => rest

/-- Whether a character can be part of the name of a group. -/
def isGroupNameChar (isFirst : Bool) (c : Char) : Bool :=
  let isIn (name : String) : Bool :=
    ((Text.Property.binary? name).or (Text.Property.category? name)).any (·.contains c)
  c == '_' || isIn "alphabetic" || !isFirst && (c == '.' || c == '[' || c == ']' || isIn "number")

/-- The name of a group, up to an angle bracket. -/
def groupName? (cs : List Char) : Option (List Char × List Char) :=
  match cs.span (· != '>') with
  | (first :: name, _ :: rest) =>
    if isGroupNameChar true first && name.all (isGroupNameChar false) then
      some (first :: name, rest)
    else none
  | _ => none

/-- What an opening parenthesis can begin. -/
inductive Opening
  /-- A setting of flags for what follows. -/
  | flags (f : Flags)
  /-- A group, with its flags and possibly a name. Only some groups can be told from
      the rest. -/
  | group (f : Flags) (told : Bool) (name : Option (List Char))

/-- Reads what follows an opening parenthesis. -/
def parenthesis? (f : Flags) (cs : List Char) : Option (Opening × List Char) :=
  match f.skip cs with
  | '?' :: '=' :: _ | '?' :: '!' :: _ | '?' :: '<' :: '=' :: _ | '?' :: '<' :: '!' :: _ => none
  | '?' :: 'P' :: '<' :: rest | '?' :: '<' :: rest =>
    (groupName? rest).map fun (name, rest) => (.group f true (some name), rest)
  | '?' :: rest =>
    match readFlags? f [] rest with
    | some (_, [], ')' :: _) => none
    | some (f, _, ')' :: rest) => some (.flags f, rest)
    | some (f, _, _ :: rest) => some (.group f false none, rest)
    | _ => none
  | rest => some (.group f true none, rest)

/-- The pattern for a character that stands for itself. -/
def literal (f : Flags) (c : Char) : Pattern :=
  if f.unicode || c.toNat < 0x80 then .one (f.fold (Ranges.ofChars [c]))
  else .one (Ranges.ofChars [c])

/-- The characters that a point stands for. -/
def dot? (f : Flags) : Option Ranges :=
  if !f.unicode then none
  else if f.dotAll then some Ranges.everything
  else if f.returns then some (Ranges.ofChars ['\n', '\r']).complement
  else some (Ranges.ofChars ['\n']).complement

/-- A character, a set or a place. -/
def single? (f : Flags) : List Char → Option (Item × List Char)
  | [] => none
  | '\\' :: rest => do
    match ← escape? f rest with
    | (.literal c, rest) => return (.basic (literal f c), rest)
    | (.set set, rest) => return (.basic (.one set), rest)
    | (.edge e, rest) => return (.basic (.edge e), rest)
  | '[' :: rest => do
    let (nested, rest) ← bracket? f rest
    return (⟨.one nested.set, nested.depth, false⟩, rest)
  | '.' :: rest => do return (.basic (.one (← dot? f)), rest)
  | '^' :: rest =>
    some (.basic (.edge (if f.multiLine then .lineStart f.returns else .textStart)), rest)
  | '$' :: rest =>
    some (.basic (.edge (if f.multiLine then .lineEnd f.returns else .textEnd)), rest)
  | c :: rest => some (.basic (literal f c), rest)

/-- Reads the branches of a choice up to a closing parenthesis or the end, given the
    names of groups, the branches and the items of the last branch so far. -/
def branches? : Nat → Flags → List (List Char) → List Item → List Item → List Char →
    Option (Item × List (List Char) × List Char)
  | 0, _, _, _, _, _ => none
  | fuel + 1, f, names, former, items, cs =>
    let ended (rest : List Char) : Option (Item × List (List Char) × List Char) :=
      some (match former with
        | [] => .sequence items
        | former => .choice (.sequence items :: former), names, rest)
    match f.skip cs with
    | [] => ended []
    | ')' :: rest => ended (')' :: rest)
    | '|' :: rest => branches? fuel f names (.sequence items :: former) [] rest
    | '(' :: rest => do
      match ← parenthesis? f rest with
      | (.flags f, rest) => branches? fuel f names former (⟨.empty, 0, true⟩ :: items) rest
      | (.group inner told name, rest) =>
        if name.any names.contains then none
        else
          let (item, names, rest) ← branches? fuel inner (name.toList ++ names) [] [] rest
          match rest with
          | ')' :: rest =>
            let group := item.around (if told then .group item.pattern else item.pattern)
            branches? fuel f names former (group :: items) rest
          | _ => none
    | cs =>
      if cs.head?.any (['?', '*', '+', '{'].contains ·) then do
        let (least, most, rest) ← repetition? f cs
        match items with
        | [] => none
        | item :: items =>
          if item.isFlags then none
          else
            let item := item.around (.repeated item.pattern least most)
            branches? fuel f names former (item :: items) rest
      else do
        let (item, rest) ← single? f cs
        branches? fuel f names former (item :: items) rest

/-- How deep a pattern can be nested. -/
def maxDepth : Nat := 250

/-- The pattern that a text is, if it is one that is accepted. -/
def ofText? (text : List Char) : Option Pattern :=
  match branches? (text.length + 1) .initial [] [] [] text with
  | some (item, _, []) =>
    if item.depth ≤ maxDepth ∧ item.pattern.room ≤ maxRoom then some item.pattern else none
  | _ => none

end Pattern

end TileTriggers
