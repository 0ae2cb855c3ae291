/-!
# Closed Vocabularies

Script text names things by upper-case keywords, binary data names the same
things by single bytes, and every such family is closed: there are seven
condition operators and there will never be an eighth in a file that this
library reads.

`Vocabulary` collects what all those families share, so that reading a byte and
reading a keyword are written once. Both readers search the list of words
rather than matching on their argument. That makes the two directions agree by
construction: a reader can only return a word whose own byte or keyword is the
one that was asked for.

## Main definitions

* `Vocabulary`: A finite family of words with keywords and bytes.
* `ofByte?`: The word with a given byte.
* `ofKeyword?`: The word with exactly a given keyword.
* `ofKeywordAnyCase?`: The word with a given keyword, ASCII letters compared
  without regard to case.

## Theorems

* `byte_of_ofByte?`: A word found by its byte has that byte.
* `keyword_of_ofKeyword?`: A word found by its keyword has that keyword.
-/

namespace TileTriggers

/-- A closed family of words. -/
class Vocabulary (α : Type) where
  /-- Every word of the family, in the order of the bytes. -/
  words : List α
  /-- The byte that stands for a word in binary data. -/
  byte : α → UInt8
  /-- The keyword that stands for a word in text. -/
  keyword : α → String

namespace Vocabulary

variable {α : Type} [Vocabulary α]

/-- The word that a byte stands for, if any. -/
def ofByte? (b : UInt8) : Option α :=
  words.find? fun a => byte a == b

/-- The word with exactly this keyword, if any. -/
def ofKeyword? (name : String) : Option α :=
  words.find? fun a => keyword a == name

/-- A name with its ASCII letters in lower case and all else as it is. Two names
    are equal up to ASCII case exactly when these agree. -/
def lowered (name : String) : List Char :=
  name.toList.map Char.toLower

/-- The word with this keyword up to the case of ASCII letters, if any. -/
def ofKeywordAnyCase? (name : String) : Option α :=
  words.find? fun a => lowered (keyword a) == lowered name

/-- A word found by its byte has that byte. -/
theorem byte_of_ofByte? {b : UInt8} {a : α} (h : ofByte? b = some a) : byte a = b := by
  simpa using List.find?_some h

/-- A word found by its keyword has that keyword. -/
theorem keyword_of_ofKeyword? {name : String} {a : α} (h : ofKeyword? name = some a) :
    keyword a = name := by
  simpa using List.find?_some h

end Vocabulary

end TileTriggers
