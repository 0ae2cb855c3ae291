import TileTriggers.Tool.Toml.Quoted

/-!
# Reading TOML

A document is read statement by statement: a header, a double header, or a key
with its value. Arrays and tables between braces may be spread over lines, hold
comments and end in a comma.

Values are nested up to a certain depth only, and so are the names of a key. The
depth that is left is what the reader of values recurs on, and the loops over items,
entries and statements consume a character in every step, so the length of the
text is fuel enough for them.

## Main definitions

* `Toml.value`: A value at the start of a text.
* `Toml.document?`: The entries of a document.
-/

namespace TileTriggers

namespace Toml

/-- A text without the spaces and tabs at its start. -/
def skipSpaces (cs : List Char) : List Char :=
  cs.dropWhile fun c => c == ' ' || c == '\t'

/-- What follows a comment, if there is one: the end of the line or of the text. -/
def skipComment : List Char → Option (List Char)
  | '#' :: cs =>
    let (comment, rest) := cs.span fun c => c != '\n' && c != '\r'
    if comment.any isControl then none else some rest
  | cs => some cs

/-- What follows the end of a line. At the end of the text nothing does. -/
def endOfLine? : List Char → Option (List Char)
  | [] => some []
  | '\n' :: cs => some cs
  | '\r' :: '\n' :: cs => some cs
  | _ => none

/-- What follows spaces, comments and ends of lines, given enough fuel. -/
def skipLinesWith : Nat → List Char → Option (List Char)
  | 0, _ => none
  | fuel + 1, cs => do
    match ← skipComment (skipSpaces cs) with
    | '\n' :: rest => skipLinesWith fuel rest
    | '\r' :: '\n' :: rest => skipLinesWith fuel rest
    | rest => return rest

/-- What follows spaces, comments and ends of lines. -/
def skipLines (cs : List Char) : Option (List Char) :=
  skipLinesWith (cs.length + 1) cs

/-- How deep values can be nested, and how many names a key can have. -/
def maxDepth : Nat := 80

/-- Whether a character can be part of a key without quotes. -/
def isKeyChar (c : Char) : Bool :=
  c.isAlphanum || c == '_' || c == '-'

/-- One name of a key. -/
def name? (cs : List Char) : Option (String × List Char) :=
  match cs.span isKeyChar with
  | ([], cs) => shortString? cs
  | (name, rest) => some (String.ofList name, rest)

/-- Names separated by points, with spaces around each, and at most so many. -/
def names? : Nat → List Char → Option (List String × List Char)
  | 0, _ => none
  | left + 1, cs => do
    let (name, rest) ← name? (skipSpaces cs)
    match skipSpaces rest with
    | '.' :: rest => do
      let (names, rest) ← names? left rest
      return (name :: names, rest)
    | rest => return ([name], rest)

/-- A key: the names of tables, and the name in the last of them. -/
def key? (cs : List Char) : Option (List String × String × List Char) := do
  let (names, rest) ← names? maxDepth cs
  return (names.dropLast, ← names.getLast?, rest)

/-- Whether a character can be part of a value without delimiters. -/
def isScalarChar (c : Char) : Bool :=
  c.isAlphanum || c == '_' || c == '-' || c == '+' || c == '.' || c == ':'

/-- A value without delimiters. A date may be separated from a time by a space. -/
def scalarValue (cs : List Char) : Option (Node × List Char) :=
  let (token, rest) := cs.span isScalarChar
  match rest, Date.read? token with
  | ' ' :: c :: cs, some (_, []) =>
    if c.isDigit then
      let (time, behind) := (c :: cs).span isScalarChar
      (scalar? (token ++ ' ' :: time)).map (·, behind)
    else (scalar? token).map (·, rest)
  | _, _ => (scalar? token).map (·, rest)

/-- The items of an array that are left, and the closing bracket, given how an item
    is read. -/
def items (item : List Char → Option (Node × List Char)) :
    Nat → List Node → List Char → Option (Node × List Char)
  | 0, _, _ => none
  | fuel + 1, done, cs => do
    match ← skipLines cs with
    | ']' :: rest => return (.array done.reverse, rest)
    | rest =>
      let (node, rest) ← item rest
      match ← skipLines rest with
      | ',' :: rest => items item fuel (node :: done) rest
      | ']' :: rest => return (.array (node :: done).reverse, rest)
      | _ => none

/-- The entries of a table between braces that are left, and the closing brace,
    given how a value is read. -/
def members (item : List Char → Option (Node × List Char)) :
    Nat → Entries → List Char → Option (Node × List Char)
  | 0, _, _ => none
  | fuel + 1, done, cs => do
    match ← skipLines cs with
    | '}' :: rest => return (.table .inlined done, rest)
    | rest =>
      let (tables, name, rest) ← key? rest
      match ← skipLines rest with
      | '=' :: rest =>
        let (node, rest) ← item (← skipLines rest)
        let entries ← putDotted name node tables done
        match ← skipLines rest with
        | ',' :: rest => members item fuel entries rest
        | '}' :: rest => return (.table .inlined entries, rest)
        | _ => none
      | _ => none

/-- A value at the start of a text, nested no deeper than a bound. -/
def value : Nat → List Char → Option (Node × List Char)
  | depth, '[' :: rest =>
    match depth with
    | 0 => none
    | depth + 1 => items (value depth) (rest.length + 1) [] rest
  | depth, '{' :: rest =>
    match depth with
    | 0 => none
    | depth + 1 => members (value depth) (rest.length + 1) [] rest
  | _, cs =>
    if cs.head? = some '"' ∨ cs.head? = some '\'' then
      (string? cs).map fun (text, rest) => (.string text, rest)
    else scalarValue cs

/-- What follows a statement on its line. -/
def endStatement (cs : List Char) : Option (List Char) := do
  endOfLine? (← skipComment (skipSpaces cs))

/-- The entries of a document, given those before the rest of the text and the
    header that the rest stands under. -/
def statements : Nat → List String → Entries → List Char → Option Entries
  | 0, _, _, _ => none
  | fuel + 1, header, root, cs =>
    match skipSpaces cs with
    | [] => some root
    | '[' :: '[' :: rest => do
      let (tables, name, rest) ← key? rest
      match rest with
      | ']' :: ']' :: rest =>
        let root ← within (openElement name) tables root
        statements fuel (tables ++ [name]) root (← endStatement rest)
      | _ => none
    | '[' :: rest => do
      let (tables, name, rest) ← key? rest
      match rest with
      | ']' :: rest =>
        let root ← within (openTable name) tables root
        statements fuel (tables ++ [name]) root (← endStatement rest)
      | _ => none
    | c :: rest =>
      if c = '#' ∨ c = '\n' ∨ c = '\r' then do
        statements fuel header root (← endStatement (c :: rest))
      else do
        let (tables, name, rest) ← key? (c :: rest)
        match rest with
        | '=' :: rest =>
          let (node, rest) ← value maxDepth (skipSpaces rest)
          let root ← within (putDotted name node tables) header root
          statements fuel header root (← endStatement rest)
        | _ => none

/-- A text without the mark that can be in front of it. -/
def withoutMark : List Char → List Char
  | '\ufeff' :: cs => cs
  | cs => cs

/-- The entries of a document, if the text is one. -/
def document? (text : List Char) : Option Entries :=
  statements (text.length + 1) [] [] (withoutMark text)

end Toml

end TileTriggers
