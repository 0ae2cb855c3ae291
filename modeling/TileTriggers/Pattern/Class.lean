import TileTriggers.Pattern.Basic
import TileTriggers.Pattern.Flags
import TileTriggers.Text.Property.Lookup

/-!
# Reading Characters and Sets of Them

Some characters have a meaning in patterns and stand for themselves behind a
backslash. Behind a backslash other characters have a meaning: control characters,
code points, common sets and properties, and edges of words.

A set between brackets lists characters, ranges and other sets, and may be negated.
Sets can be combined there, from left to right, to what lies in both, in the first
alone, or in just one of them. Case is ignored, if it is, before a set is negated.

Without Unicode all characters of a set are ASCII, so that a negated set is none.

## Main definitions

* `Pattern.Atom`: What a backslash can begin.
* `Pattern.escape?`: Reads what follows a backslash.
* `Pattern.bracket?`: Reads what follows an opening bracket.
-/

namespace TileTriggers

namespace Pattern

open Text (Ranges)

/-- What a backslash can begin. -/
inductive Atom
  | literal (c : Char)
  | set (set : Ranges)
  | edge (edge : Edge)

/-- The ASCII letters and digits by kind, as they are named between colons. -/
def asciiSet? : String → Option Ranges
  | "alnum" => some [(0x30, 0x39), (0x41, 0x5a), (0x61, 0x7a)]
  | "alpha" => some [(0x41, 0x5a), (0x61, 0x7a)]
  | "ascii" => some [(0, 0x7f)]
  | "blank" => some [(0x09, 0x09), (0x20, 0x20)]
  | "cntrl" => some [(0, 0x1f), (0x7f, 0x7f)]
  | "digit" => some [(0x30, 0x39)]
  | "graph" => some [(0x21, 0x7e)]
  | "lower" => some [(0x61, 0x7a)]
  | "print" => some [(0x20, 0x7e)]
  | "punct" => some [(0x21, 0x2f), (0x3a, 0x40), (0x5b, 0x60), (0x7b, 0x7e)]
  | "space" => some [(0x09, 0x0d), (0x20, 0x20)]
  | "upper" => some [(0x41, 0x5a)]
  | "word" => some [(0x30, 0x39), (0x41, 0x5a), (0x5f, 0x5f), (0x61, 0x7a)]
  | "xdigit" => some [(0x30, 0x39), (0x41, 0x46), (0x61, 0x66)]
  | _ => none

/-- A set of ASCII characters with the letters of either case. -/
def asciiFolded (set : Ranges) : Ranges :=
  let letters (first : Nat) : Ranges := [(first, first + 25)]
  let moved (set : Ranges) (off : Nat → Nat) : Ranges := set.map fun r => (off r.1, off r.2)
  Ranges.ofPairs (set ++ moved (Ranges.meet set (letters 0x41)) (· + 32) ++
    moved (Ranges.meet set (letters 0x61)) (· - 32))

/-- A set with what differs from its members in case alone, if case is ignored. -/
def Flags.fold (f : Flags) (set : Ranges) : Ranges :=
  if !f.ignoreCase then set
  else if f.unicode then set.folded
  else asciiFolded set

/-- A set as it is meant, possibly negated. -/
def Flags.finish? (f : Flags) (negated : Bool) (set : Ranges) : Option Ranges :=
  let set := f.fold set
  if !negated then some set
  else if f.unicode then some set.complement
  else none

/-- The set of a letter behind a backslash: digits, blanks or word characters, and all
    others if it is a capital letter. -/
def Flags.commonSet? (f : Flags) (letter : Char) : Option Ranges :=
  let set? := match letter.toLower with
    | 'd' => if f.unicode then Text.Property.category? "nd" else asciiSet? "digit"
    | 's' => if f.unicode then some (Ranges.ofChars Text.blanks) else asciiSet? "space"
    | 'w' => if f.unicode then some Text.wordRanges else asciiSet? "word"
    | _ => none
  if letter.isUpper then
    if f.unicode then set?.map Ranges.complement else none
  else set?

/-- Whether a character stands for itself behind a backslash: ASCII characters other
    than letters, digits and angle brackets. -/
def isEscapable (c : Char) : Bool :=
  c.toNat < 0x80 && !c.isAlphanum && c != '<' && c != '>'

/-- Some hexadecimal digits, one after the other, up to a closing brace. -/
def bracedDigits? (f : Flags) : Nat → List Char → Option (List Char × List Char)
  | 0, _ => none
  | fuel + 1, cs => do
    match f.skip cs with
    | '}' :: rest => return ([], f.skip rest)
    | c :: rest =>
      let (digits, rest) ← bracedDigits? f fuel rest
      return (c :: digits, rest)
    | [] => none

/-- So many hexadecimal digits, one after the other. -/
def digits? (f : Flags) : Nat → List Char → Option (List Char × List Char)
  | 0, cs => some ([], cs)
  | n + 1, c :: rest => do
    let (digits, rest) ← digits? f n (f.skip rest)
    return (c :: digits, rest)
  | _, [] => none

/-- A character by its code point, behind the letter that says how many digits it has
    unless they are between braces. Two digits are a byte, and without Unicode no byte
    but an ASCII character is one. -/
def codePoint? (f : Flags) (letter : Char) (cs : List Char) : Option (Char × List Char) :=
  match f.skip cs with
  | '{' :: rest => do
    let (digits, rest) ← bracedDigits? f (rest.length + 1) rest
    return (← Numeral.codePoint? digits, rest)
  | cs => do
    let width := if letter = 'x' then 2 else if letter = 'u' then 4 else 8
    let (digits, rest) ← digits? f width cs
    let c ← Numeral.codePoint? digits
    if !f.unicode && letter = 'x' && 0x80 ≤ c.toNat then none else return (c, rest)

/-- Some characters up to a closing brace. -/
def bracedName? (f : Flags) : Nat → List Char → Option (List Char × List Char)
  | 0, _ => none
  | fuel + 1, cs => do
    match f.skip cs with
    | '}' :: rest => return ([], rest)
    | c :: rest =>
      let (name, rest) ← bracedName? f fuel rest
      return (c :: name, rest)
    | [] => none

/-- The parts of a text before and behind the first occurrence of a separator. -/
def cut? (separator : List Char) : List Char → Option (List Char × List Char)
  | [] => none
  | c :: cs =>
    if separator.isPrefixOf (c :: cs) then some ([], (c :: cs).drop separator.length)
    else (cut? separator cs).map fun (before, behind) => (c :: before, behind)

/-- The characters with a property, and whether it is the others that are meant. -/
def propertySet? (name : List Char) : Option (Bool × Ranges) :=
  match cut? ['!', '='] name with
  | some (kind, value) => (Text.Property.valued? kind value).map (true, ·)
  | none =>
    match (cut? [':'] name).or (cut? ['='] name) with
    | some (kind, value) => (Text.Property.valued? kind value).map (false, ·)
    | none => (Text.Property.named? name).map (false, ·)

/-- A set of characters by their property, behind the letter. The property is one
    letter or a name between braces. -/
def property? (f : Flags) (negated : Bool) (cs : List Char) : Option (Ranges × List Char) := do
  if !f.unicode then none
  else
    let (name, rest) ← match f.skip cs with
      | '{' :: rest => bracedName? f (rest.length + 1) rest
      | '\\' :: _ => none
      | c :: rest => some ([c], f.skip rest)
      | [] => none
    let (other, set) ← propertySet? name
    return (← f.finish? (negated != other) set, rest)

/-- Whether a character can be part of the name of an edge. -/
def isEdgeNameChar (c : Char) : Bool :=
  c.isAlpha || c == '-'

/-- The name of an edge up to a closing brace. -/
def edgeName? (f : Flags) : Nat → List Char → Option (List Char × List Char)
  | 0, _ => none
  | fuel + 1, cs => do
    match cs with
    | '}' :: rest => return ([], rest)
    | c :: rest =>
      if isEdgeNameChar c then
        let (name, rest) ← edgeName? f fuel (f.skip rest)
        return (c :: name, rest)
      else none
    | [] => none

/-- An edge of a word, behind its letter. A name between braces can tell which one,
    and braces that begin otherwise are a count. -/
def wordEdge? (f : Flags) (cs : List Char) : Option (WordEdge × List Char) :=
  match cs with
  | '{' :: inner =>
    match f.skip inner with
    | [] => none
    | c :: rest =>
      if !isEdgeNameChar c then some (.boundary, cs)
      else do
        let (name, rest) ← edgeName? f (rest.length + 2) (c :: rest)
        match String.ofList name with
        | "start" => return (.start, rest)
        | "end" => return (.finish, rest)
        | "start-half" => return (.startHalf, rest)
        | "end-half" => return (.finishHalf, rest)
        | _ => none
  | cs => some (.boundary, cs)

/-- Reads what follows a backslash. -/
def escape? (f : Flags) : List Char → Option (Atom × List Char)
  | [] => none
  | c :: rest =>
    let word (e : WordEdge) : Atom := .edge (.word e !f.unicode)
    if isEscapable c then some (.literal c, rest)
    else
      match c with
      | 'x' | 'u' | 'U' => (codePoint? f c rest).map fun (c, rest) => (.literal c, rest)
      | 'p' => (property? f false rest).map fun (s, rest) => (.set s, rest)
      | 'P' => (property? f true rest).map fun (s, rest) => (.set s, rest)
      | 'd' | 's' | 'w' | 'D' | 'S' | 'W' => (f.commonSet? c).map fun s => (.set s, rest)
      | 'a' => some (.literal '\x07', rest)
      | 'f' => some (.literal '\x0c', rest)
      | 't' => some (.literal '\t', rest)
      | 'n' => some (.literal '\n', rest)
      | 'r' => some (.literal '\r', rest)
      | 'v' => some (.literal '\x0b', rest)
      | 'A' => some (.edge .textStart, rest)
      | 'z' => some (.edge .textEnd, rest)
      | 'b' => (wordEdge? f rest).map fun (e, rest) => (word e, rest)
      | 'B' => some (word .noBoundary, rest)
      | '<' => some (word .start, rest)
      | '>' => some (word .finish, rest)
      | _ => none

/-- A set with how deep it is nested. -/
structure Nested where
  set : Ranges
  depth : Nat

/-- How two sets can be combined. -/
inductive Combination
  | both | firstOnly | justOne
  deriving DecidableEq, Repr

/-- The set that two sets are combined to. -/
def Combination.apply (a b : Ranges) : Combination → Ranges
  | .both => a.meet b
  | .firstOnly => a.minus b
  | .justOne => (a.minus b).union (b.minus a)

/-- What is listed in one place, the latest first. -/
def Nested.listed (items : List Nested) : Nested :=
  ⟨Ranges.ofPairs (items.flatMap Nested.set),
    match items with
    | [item] => item.depth
    | [] => 0
    | items => 1 + (items.map Nested.depth).foldl max 0⟩

/-- What is listed in one place, combined with what is before it. -/
def Nested.combined (f : Flags) (before : Option (Nested × Combination)) (items : List Nested) :
    Nested :=
  let last := listed items
  match before with
  | none => last
  | some (first, how) =>
    ⟨how.apply (f.fold first.set) (f.fold last.set), 1 + max first.depth last.depth⟩

/-- A set named between colons, behind the opening bracket. -/
def namedSet? (f : Flags) : List Char → Option (Option Ranges × List Char)
  | ':' :: cs =>
    let (negated, cs) := match cs with
      | '^' :: cs => (true, cs)
      | cs => (false, cs)
    match cs.span (· != ':') with
    | (name, ':' :: ']' :: rest) =>
      (asciiSet? (String.ofList name)).map fun set => (f.finish? negated set, rest)
    | _ => none
  | _ => none

/-- What follows an opening bracket before the first item: whether the set is negated,
    and hyphens or a closing bracket that stand for themselves. -/
def opening? (f : Flags) (cs : List Char) : Option (Bool × List Nested × List Char) :=
  let literal (c : Char) : Nested := ⟨Ranges.ofChars [c], 0⟩
  let (negated, cs) := match f.skip cs with
    | '^' :: cs => (true, f.skip cs)
    | cs => (false, cs)
  let (hyphens, cs) := f.skipHyphens cs
  match cs with
  | [] => none
  | ']' :: rest =>
    if hyphens = 0 then
      match f.skip rest with
      | [] => none
      | rest => some (negated, [literal ']'], rest)
    else some (negated, List.replicate hyphens (literal '-'), cs)
  | cs => some (negated, List.replicate hyphens (literal '-'), cs)

/-- A character or a set between brackets. -/
def item? (f : Flags) : List Char → Option (Atom × List Char)
  | '\\' :: cs => escape? f cs
  | c :: cs => some (.literal c, cs)
  | [] => none

/-- The characters of an item. Without Unicode they have to be ASCII. -/
def Atom.set? (f : Flags) : Atom → Option Ranges
  | .literal c => if !f.unicode && 0x80 ≤ c.toNat then none else some (Ranges.ofChars [c])
  | .set s => some s
  | .edge _ => none

/-- A character, a range or a set between brackets. A hyphen before the closing
    bracket or before another one does not make a range. -/
def range? (f : Flags) (cs : List Char) : Option (Ranges × List Char) := do
  let (first, rest) ← item? f cs
  match f.skip rest with
  | [] => none
  | '-' :: behind =>
    let next := f.peek behind
    if next = some ']' ∨ next = some '-' then return (← first.set? f, '-' :: behind)
    else
      match first, ← item? f (f.skip behind) with
      | .literal low, (.literal high, rest) =>
        if high < low ∨ !f.unicode && 0x80 ≤ high.toNat then none
        else return ([(low.toNat, high.toNat)], rest)
      | _, _ => none
  | rest => return (← first.set? f, rest)

/-- Reads a set up to its closing bracket, given whether it is negated, what was combined
    so far and what was listed since. -/
def listing? (f : Flags) : Nat → Bool → Option (Nested × Combination) → List Nested →
    List Char → Option (Nested × List Char)
  | 0, _, _, _, _ => none
  | fuel + 1, negated, before, items, cs => do
    let combine (how : Combination) (rest : List Char) : Option (Nested × List Char) :=
      listing? f fuel negated (some (Nested.combined f before items, how)) [] rest
    match f.skip cs with
    | [] => none
    | '[' :: rest =>
      match namedSet? f rest with
      | some (set?, rest) => listing? f fuel negated before (⟨← set?, 0⟩ :: items) rest
      | none =>
        let (innerNegated, innerItems, rest) ← opening? f rest
        let (inner, rest) ← listing? f fuel innerNegated none innerItems rest
        listing? f fuel negated before (inner :: items) rest
    | ']' :: rest =>
      let whole := Nested.combined f before items
      return (⟨← f.finish? negated whole.set, 1 + whole.depth⟩, rest)
    | '&' :: '&' :: rest => combine .both rest
    | '-' :: '-' :: rest => combine .firstOnly rest
    | '~' :: '~' :: rest => combine .justOne rest
    | cs =>
      let (set, rest) ← range? f cs
      listing? f fuel negated before (⟨set, 0⟩ :: items) rest

/-- Reads what follows an opening bracket. -/
def bracket? (f : Flags) (cs : List Char) : Option (Nested × List Char) := do
  let (negated, items, cs) ← opening? f cs
  listing? f (cs.length + 1) negated none items cs

end Pattern

end TileTriggers
