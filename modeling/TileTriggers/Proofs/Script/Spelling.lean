import TileTriggers.Script.Field
import TileTriggers.Script.Token
import TileTriggers.Text.Word
import TileTriggers.Proofs.Text.Decimal
import TileTriggers.Proofs.Text.Trim
import TileTriggers.Proofs.Vocabulary
import Mathlib.Tactic.SplitIfs

/-!
# The Characters of Rendered Arguments

Every separator of the script language is safe because the parts around it cannot
hold it. The parts are made of name characters, that is ASCII letters, digits and
the underscore, and of the few signs that brackets and braces add. What separates
arguments, parentheses and lines is not among them, so one look at the alphabet
answers all such questions at once.

A dialog text is the exception. It can hold any of the separators, and the readers
leave it alone for that reason.

## Main definitions

* `Spelled`: A vocabulary whose keywords are names.
* `isElementChar`, `isArgumentChar`: The alphabets of list elements and arguments.

## Theorems

* `isNameChar_of_mem_digits`: A numeral is a name.
* `render_ne_nil`, `isArgumentChar_of_mem_render`: The text of an argument that is no
  dialog text.
* `tight_render`: The text of an argument has no blanks at its ends.
-/

namespace TileTriggers

namespace Vocabulary

/-- A vocabulary whose keywords are names: one or more name characters. -/
class Spelled (α : Type) [Vocabulary α] : Prop where
  keyword_ne_nil : ∀ a ∈ (words : List α), (keyword a).toList ≠ []
  keyword_chars : ∀ a ∈ (words : List α), (keyword a).toList.all Token.isNameChar

instance : Spelled Combine where
  keyword_ne_nil := by decide
  keyword_chars := by decide

instance : Spelled Order where
  keyword_ne_nil := by decide
  keyword_chars := by decide

instance : Spelled Repeat where
  keyword_ne_nil := by decide
  keyword_chars := by decide

instance : Spelled ConditionOp where
  keyword_ne_nil := by decide
  keyword_chars := by decide

instance : Spelled ActionOp where
  keyword_ne_nil := by decide
  keyword_chars := by decide

instance : Spelled TileType where
  keyword_ne_nil := by decide +kernel
  keyword_chars := by decide +kernel

variable {α : Type} [Vocabulary α] [Faithful α] [Spelled α]

theorem keyword_ne_nil (a : α) : (keyword a).toList ≠ [] :=
  Spelled.keyword_ne_nil a (Faithful.mem_words a)

theorem isNameChar_of_mem_keyword {a : α} {c : Char} (h : c ∈ (keyword a).toList) :
    Token.isNameChar c :=
  List.all_eq_true.mp (Spelled.keyword_chars a (Faithful.mem_words a)) c h

end Vocabulary

theorem isNameChar_of_isDigit {c : Char} (h : c.isDigit) : Token.isNameChar c := by
  simp only [Token.isNameChar, Char.isAlphanum, h, Bool.or_true, Bool.true_or]

theorem isNameChar_of_mem_digits {n : Nat} {c : Char} (h : c ∈ Decimal.digits n) :
    Token.isNameChar c :=
  isNameChar_of_isDigit (Decimal.isDigit_of_mem_digits h)

theorem isBlank_of_isNameChar {c : Char} (h : Token.isNameChar c) : Text.isBlank c = false := by
  have hblanks : Text.blanks.all (fun b => !Token.isNameChar b) = true := by decide
  rw [Text.isBlank, List.contains_eq_mem, decide_eq_false_iff_not]
  -- If the character were a blank, it would be a blank among names.
  intro hc
  have hblank := List.all_eq_true.mp hblanks c hc
  rw [h] at hblank
  exact absurd hblank (by decide)

theorem isSpace_of_isBlank {c : Char} (h : Text.isBlank c = false) : Text.isSpace c = false := by
  have hspaces : Text.isBlank ' ' = true ∧ Text.isBlank '\t' = true := by decide
  rw [Text.isSpace, Bool.or_eq_false_iff, beq_eq_false_iff_ne, beq_eq_false_iff_ne]
  constructor
  · rintro rfl
    exact absurd (h.symm.trans hspaces.1) (by simp only [reduceCtorEq, not_false_eq_true])
  · rintro rfl
    exact absurd (h.symm.trans hspaces.2) (by simp only [reduceCtorEq, not_false_eq_true])

/-- The alphabet of list elements: of ids, cells and spawns. -/
def isElementChar (c : Char) : Bool :=
  Token.isNameChar c || ['-', '.', '{', '}'].contains c

/-- The alphabet of all arguments but dialog texts. -/
def isArgumentChar (c : Char) : Bool :=
  isElementChar c || ['[', ']', ',', ' '].contains c

theorem isSpace_of_isElementChar {c : Char} (h : isElementChar c) : Text.isSpace c = false := by
  rw [isElementChar, Bool.or_eq_true] at h
  rcases h with h | h
  · exact isSpace_of_isBlank (isBlank_of_isNameChar h)
  · simp only [List.contains_eq_mem, List.mem_cons, List.not_mem_nil, or_false,
      decide_eq_true_eq] at h
    rcases h with rfl | rfl | rfl | rfl <;> decide

theorem isElementChar_of_isNameChar {c : Char} (h : Token.isNameChar c) : isElementChar c := by
  rw [isElementChar, h, Bool.true_or]

theorem isArgumentChar_of_isElementChar {c : Char} (h : isElementChar c) : isArgumentChar c := by
  rw [isArgumentChar, h, Bool.true_or]

/-- What is not in an alphabet is not in a text over it. -/
theorem not_mem_of_alphabet {alphabet : Char → Bool} {cs : List Char} {d : Char}
    (h : ∀ c ∈ cs, alphabet c) (hd : alphabet d = false) : d ∉ cs := by
  intro hmem
  exact absurd (hd.symm.trans (h d hmem)) (by simp only [reduceCtorEq, not_false_eq_true])

theorem chars_coordinates {cell : Cell} {c : Char} (h : c ∈ cell.coordinates) :
    Token.isNameChar c ∨ c = '.' := by
  rw [Cell.coordinates, List.mem_append, List.mem_cons] at h
  rcases h with h | h | h
  · exact Or.inl (isNameChar_of_mem_digits h)
  · exact Or.inr h
  · exact Or.inl (isNameChar_of_mem_digits h)

theorem isElementChar_of_mem_coordinates {cell : Cell} {c : Char} (h : c ∈ cell.coordinates) :
    isElementChar c := by
  rcases chars_coordinates h with h | rfl
  · exact isElementChar_of_isNameChar h
  · decide

theorem isElementChar_of_mem_cell {cell : Cell} {c : Char} (h : c ∈ cell.render) :
    isElementChar c := by
  simp only [Cell.render, List.mem_cons, List.mem_append, List.not_mem_nil, or_false] at h
  rcases h with rfl | h | rfl
  · decide
  · exact isElementChar_of_mem_coordinates h
  · decide

theorem isElementChar_of_mem_spawn {spawn : Spawn} {c : Char} (h : c ∈ spawn.render) :
    isElementChar c := by
  simp only [Spawn.render, List.mem_cons, List.mem_append, List.not_mem_nil, or_false] at h
  rcases h with rfl | h | rfl | h | rfl | h | rfl
  · decide
  · change c ∈ (Vocabulary.keyword spawn.kind).toList at h
    exact isElementChar_of_isNameChar (Vocabulary.isNameChar_of_mem_keyword h)
  · decide
  · exact isElementChar_of_isNameChar (isNameChar_of_mem_digits h)
  · decide
  · exact isElementChar_of_mem_coordinates h
  · decide

theorem mem_of_mem_intercalate {separator : List Char} {pieces : List (List Char)} {c : Char}
    (h : c ∈ separator.intercalate pieces) : c ∈ separator ∨ ∃ piece ∈ pieces, c ∈ piece := by
  induction pieces with
  | nil => exact absurd h (by simp)
  | cons piece rest ih =>
      cases rest with
      | nil =>
          rw [List.intercalate_singleton] at h
          exact Or.inr ⟨piece, List.mem_cons_self, h⟩
      | cons next rest =>
          rw [List.intercalate_cons_cons, List.mem_append, List.mem_append] at h
          -- It is in the first piece, in the separator behind it or further on.
          rcases h with (h | h) | h
          · exact Or.inr ⟨piece, List.mem_cons_self, h⟩
          · exact Or.inl h
          · rcases ih h with h | ⟨other, hother, h⟩
            · exact Or.inl h
            · exact Or.inr ⟨other, List.mem_cons_of_mem _ hother, h⟩

theorem isArgumentChar_of_mem_bracketed {α : Type} {values : List α} {render : α → List Char}
    (hrender : ∀ a ∈ values, ∀ c ∈ render a, isElementChar c) {c : Char}
    (h : c ∈ bracketed (values.map render)) : isArgumentChar c := by
  simp only [bracketed, List.mem_cons, List.mem_append, List.not_mem_nil, or_false] at h
  rcases h with rfl | h | rfl
  · decide
  · -- Between the brackets are elements, and a comma and a space between two of them.
    rcases mem_of_mem_intercalate h with h | ⟨piece, hpiece, h⟩
    · simp only [List.mem_cons, List.not_mem_nil, or_false] at h
      rcases h with rfl | rfl <;> decide
    · rcases List.mem_map.mp hpiece with ⟨a, ha, rfl⟩
      exact isArgumentChar_of_isElementChar (hrender a ha c h)
  · decide

namespace FieldValue

theorem isArgumentChar_of_mem_render {v : FieldValue} (hkind : v.kind ≠ .text) {c : Char}
    (h : c ∈ v.render) : isArgumentChar c := by
  -- Names and numerals, or brackets with such elements. Only a text could hold more.
  cases v with
  | combine | order | «repeat» =>
      exact isArgumentChar_of_isElementChar
        (isElementChar_of_isNameChar (Vocabulary.isNameChar_of_mem_keyword h))
  | ids values =>
      exact isArgumentChar_of_mem_bracketed
        (fun _ _ _ hc => isElementChar_of_isNameChar (isNameChar_of_mem_digits hc)) h
  | cells values => exact isArgumentChar_of_mem_bracketed (fun _ _ _ => isElementChar_of_mem_cell) h
  | spawns values =>
      exact isArgumentChar_of_mem_bracketed (fun _ _ _ => isElementChar_of_mem_spawn) h
  | millis | mapIndex =>
      exact isArgumentChar_of_isElementChar
        (isElementChar_of_isNameChar (isNameChar_of_mem_digits h))
  | cell value => exact isArgumentChar_of_isElementChar (isElementChar_of_mem_cell h)
  | text value => exact absurd rfl hkind

end FieldValue

/-- What a text without a fault looks like to the readers of a line. -/
theorem text_of_textFault? {text : String} (h : textFault? text = none) :
    text.toList ≠ [] ∧ '\n' ∉ text.toList ∧ Text.Tight Text.isBlank text.toList := by
  unfold textFault? at h
  simp only at h
  -- Each fault is the opposite of one thing that the readers rely on.
  split_ifs at h with hempty hlong hchar htrim
  refine ⟨by simpa using hempty, fun hmem => ?_, ?_⟩
  · exact hchar (List.any_eq_true.mpr ⟨'\n', hmem, by decide⟩)
  · exact Text.trimBy_eq_self_iff.mp (Decidable.of_not_not htrim)

namespace FieldValue

theorem tight_render {v : FieldValue} (h : v.violation? = none) :
    Text.Tight Text.isBlank v.render := by
  -- A numeral or a keyword has no blanks, and brackets are none.
  cases v with
  | combine | order | «repeat» =>
      exact Text.tight_of_forall fun c hc =>
        isBlank_of_isNameChar (Vocabulary.isNameChar_of_mem_keyword hc)
  | ids | cells | spawns => exact Text.tight_cons_append (by decide) (by decide) _
  | millis | mapIndex =>
      exact Text.tight_of_forall fun c hc => isBlank_of_isNameChar (isNameChar_of_mem_digits hc)
  | cell value => exact Text.tight_cons_append (by decide) (by decide) _
  | text value => exact (text_of_textFault? (Option.map_eq_none_iff.mp h)).2.2

theorem newline_notMem_render {v : FieldValue} (h : v.violation? = none) : '\n' ∉ v.render := by
  by_cases hkind : v.kind = .text
  · -- A text is the only argument that could hold a line break, and must not.
    cases v with
    | text value => exact (text_of_textFault? (Option.map_eq_none_iff.mp h)).2.1
    | _ => exact absurd hkind (by simp only [kind, reduceCtorEq, not_false_eq_true])
  · exact not_mem_of_alphabet (fun _ => isArgumentChar_of_mem_render hkind) (by decide)

theorem render_ne_nil {v : FieldValue} (h : v.violation? = none) : v.render ≠ [] := by
  cases v with
  | combine | order | «repeat» => exact Vocabulary.keyword_ne_nil _
  | ids | cells | spawns | cell => exact List.cons_ne_nil _ _
  | millis | mapIndex => exact Nat.toDigits_ne_nil
  | text value => exact (text_of_textFault? (Option.map_eq_none_iff.mp h)).1

end FieldValue

end TileTriggers
