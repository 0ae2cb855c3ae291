import TileTriggers.Cell
import TileTriggers.Text.Trim

/-!
# Argument Tokens

How a single argument is written. Numbers, cells and spawns allow spaces and
tabs around their parts, keywords and texts allow any blanks at their ends, and
nothing else is lenient: a token is read as a whole or not at all.

No part of a cell or a spawn can hold the separator of the construct around it.
A cell between braces has no comma, a number no point. Each reader can therefore
cut its token at every separator first and read the pieces on their own, and the
cut is the only possible one.

## Main definitions

* `byte?`, `millis?`: Numbers.
* `cell?`: A cell.
* `namedSpawn?`: A spawn whose type is still a name.
* `list?`: A bracketed list of any of them.
* `keyword?`, `text?`: Keywords and dialog texts.
-/

namespace TileTriggers

/-- A spawn as it is written, before its type name is looked up. -/
structure NamedSpawn where
  name : String
  id : UInt8
  cell : Cell
  deriving DecidableEq, Repr

namespace Token

/-- What stands between an opening and a closing character, spaces around the
    two being ignored. -/
def between? (opening closing : Char) (token : List Char) : Option (List Char) :=
  match Text.trimSpaces token with
  | [] => none
  | first :: rest =>
    if first = opening ∧ rest.getLast? = some closing then some rest.dropLast else none

/-- A number from 0 to 255. -/
def byte? (token : List Char) : Option UInt8 :=
  (Decimal.value? 255 (Text.trimSpaces token)).map UInt8.ofNat

/-- A number from 0 to 4294967295. -/
def millis? (token : List Char) : Option UInt32 :=
  (Decimal.value? 4294967295 (Text.trimSpaces token)).map UInt32.ofNat

/-- Two coordinates separated by a point. -/
def coordinates? (token : List Char) : Option Cell :=
  match token.splitOn '.' with
  | [x, y] => do return ⟨← byte? x, ← byte? y⟩
  | _ => none

/-- A cell: two coordinates between braces. -/
def cell? (token : List Char) : Option Cell :=
  between? '{' '}' token >>= coordinates?

/-- Whether a character can be part of a type name. -/
def isNameChar (c : Char) : Bool :=
  c.isAlphanum || c == '_'

/-- The name of a tile type, known or not. -/
def name? (token : List Char) : Option String :=
  let name := Text.trimSpaces token
  if name.isEmpty ∨ ¬ name.all isNameChar then none else some (String.ofList name)

/-- A spawn: a name, an id and two coordinates between braces, separated by
    hyphens. -/
def namedSpawn? (token : List Char) : Option NamedSpawn := do
  let inner ← between? '{' '}' token
  match inner.splitOn '-' with
  | [name, id, cell] => return ⟨← name? name, ← byte? id, ← coordinates? cell⟩
  | _ => none

/-- A list: elements between brackets, separated by commas. Nothing but spaces
    between the brackets is the empty list. -/
def list? {α : Type} (element? : List Char → Option α) (token : List Char) : Option (List α) := do
  let inner ← between? '[' ']' token
  if inner.all Text.isSpace then return [] else (inner.splitOn ',').mapM element?

/-- A keyword of some vocabulary, exactly as it is spelled. -/
def keyword? {α : Type} [Vocabulary α] (token : List Char) : Option α :=
  Vocabulary.ofKeyword? (String.ofList (Text.trim token))

/-- A dialog text: whatever is left without the blanks at the ends, unless
    nothing is. -/
def text? (token : List Char) : Option String :=
  let text := Text.trim token
  if text.isEmpty then none else some (String.ofList text)

end Token

end TileTriggers
