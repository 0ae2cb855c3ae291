import TileTriggers.Grammar
import TileTriggers.Keyword
import TileTriggers.TileType

/-!
# Faithful Vocabularies

What a vocabulary needs for its two readers to find back every word: no two words
share a byte, and no two share a keyword, not even up to the case of ASCII
letters. The readers search a list, so the list must also be complete.

None of this holds of a vocabulary as such. It is a property of the six tables,
checked once for each, and everything that reads a word back rests on it.

## Main definitions

* `Vocabulary.Faithful`: Bytes and keywords tell all words apart.
* `Vocabulary.IsKeyword`: A name is a keyword up to the case of ASCII letters.

## Theorems

* `ofByte?_eq_some_iff`: A byte is read as a word exactly when it is its byte.
* `ofKeywordAnyCase?_keyword`: A keyword is read as its word, case ignored.
* `ofKeyword?_keyword`: A keyword is read as its word.
* `ofKeyword?_eq_some_iff`, `ofKeywordAnyCase?_eq_some_iff`: What is read as a word.
* `ofKeywordAnyCase?_eq_none_iff`: What is not read is no keyword.
-/

namespace TileTriggers

namespace Vocabulary

/-- A vocabulary with a complete list of words, in which each word is the first
    with its byte and the first with its keyword up to ASCII case. -/
class Faithful (α : Type) [Vocabulary α] : Prop where
  mem_words : ∀ a : α, a ∈ (words : List α)
  byte_words : ∀ a ∈ (words : List α), ofByte? (byte a) = some a
  keyword_words : ∀ a ∈ (words : List α), ofKeywordAnyCase? (keyword a) = some a

instance : Faithful Combine where
  mem_words a := by cases a <;> decide
  byte_words := by decide
  keyword_words := by decide

instance : Faithful Order where
  mem_words a := by cases a <;> decide
  byte_words := by decide
  keyword_words := by decide

instance : Faithful Repeat where
  mem_words a := by cases a <;> decide
  byte_words := by decide
  keyword_words := by decide

instance : Faithful ConditionOp where
  mem_words a := by cases a <;> decide
  byte_words := by decide
  keyword_words := by decide

instance : Faithful ActionOp where
  mem_words a := by cases a <;> decide
  byte_words := by decide
  keyword_words := by decide

instance : Faithful TileType where
  mem_words a := by cases a <;> decide
  byte_words := by decide +kernel
  keyword_words := by decide +kernel

variable {α : Type} [Vocabulary α] [Faithful α]

/-- A byte is read as a word exactly when it is the byte of that word. -/
theorem ofByte?_eq_some_iff {b : UInt8} {a : α} : ofByte? b = some a ↔ b = byte a := by
  constructor
  · intro h
    exact (byte_of_ofByte? h).symm
  · rintro rfl
    exact Faithful.byte_words a (Faithful.mem_words a)

theorem ofKeywordAnyCase?_keyword (a : α) : ofKeywordAnyCase? (keyword a) = some a :=
  Faithful.keyword_words a (Faithful.mem_words a)

theorem ofKeyword?_keyword (a : α) : ofKeyword? (keyword a) = some a := by
  -- A word in front of `a` differs from it even up to case.
  rcases List.find?_eq_some_iff_append.mp (ofKeywordAnyCase?_keyword a) with
    ⟨-, before, behind, hwords, hbefore⟩
  refine List.find?_eq_some_iff_append.mpr ⟨by simp, before, behind, hwords, ?_⟩
  intro b hb
  have hne := hbefore b hb
  simp only [Bool.not_eq_true', beq_eq_false_iff_ne] at hne ⊢
  intro heq
  exact hne (by rw [heq])

/-- A name is read as a word exactly when it is the keyword of that word. -/
theorem ofKeyword?_eq_some_iff {name : String} {a : α} :
    ofKeyword? name = some a ↔ name = keyword a := by
  constructor
  · intro h
    exact (keyword_of_ofKeyword? h).symm
  · rintro rfl
    exact ofKeyword?_keyword a

/-- The same when the case of ASCII letters is ignored. -/
theorem ofKeywordAnyCase?_eq_some_iff {name : String} {a : α} :
    ofKeywordAnyCase? name = some a ↔ lowered (keyword a) = lowered name := by
  constructor
  · intro h
    simpa using List.find?_some h
  · intro h
    rw [← ofKeywordAnyCase?_keyword a, ofKeywordAnyCase?, ofKeywordAnyCase?, h]

/-- A name that is some keyword, the case of ASCII letters ignored. -/
def IsKeyword (α : Type) [Vocabulary α] (name : String) : Prop :=
  ∃ a : α, lowered (keyword a) = lowered name

/-- The reader finds no word exactly when the name is no keyword. -/
theorem ofKeywordAnyCase?_eq_none_iff {name : String} :
    (ofKeywordAnyCase? name : Option α) = none ↔ ¬ IsKeyword α name := by
  rw [ofKeywordAnyCase?, List.find?_eq_none, IsKeyword, not_exists]
  simp only [beq_iff_eq, Faithful.mem_words, true_imp_iff]

end Vocabulary

end TileTriggers
