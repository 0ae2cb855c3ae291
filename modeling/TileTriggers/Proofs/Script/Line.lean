import TileTriggers.Proofs.Script.Arguments
import TileTriggers.Proofs.Script.Layout
import TileTriggers.Proofs.Text.Ascii

/-!
# Cutting a Canonical Line

The canonical line of a script is cut where it was put together. It is laid out with
one space in each of its gaps, and a line is cut along its layout, whatever
parentheses the arguments of the action hold.

Keywords are name characters, and a name character is a word character and folds
to its own lower case. The two fold-ins that the cut allows for never arise, not
even in a keyword written with other letters than the capitals.

## Theorems

* `isWord_of_isNameChar`: Names are words.
* `Shape.ofLine?_calls`: The cut of a line put together from its four parts.
* `passesFor_of_isKeyword`: A keyword passes in any case.
* `passesFor_keyword`, `operator?_keyword`: A keyword names its operator.
-/

namespace TileTriggers

theorem toNat_lt_of_isNameChar {c : Char} (h : Token.isNameChar c) : c.toNat < 128 := by
  rw [Token.isNameChar, Char.isAlphanum, Bool.or_eq_true, Bool.or_eq_true, beq_iff_eq] at h
  rcases h with (h | h) | rfl
  · -- A letter lies between the first and the last capital or small one.
    change ((decide (c.val ≥ 'A'.val ∧ c.val ≤ 'Z'.val)) ||
      (decide (c.val ≥ 'a'.val) && decide (c.val ≤ 'z'.val))) = true at h
    simp only [Bool.or_eq_true, Bool.and_eq_true, decide_eq_true_eq] at h
    rcases h with h | h
    · exact Nat.lt_of_le_of_lt h.2 (by decide)
    · exact Nat.lt_of_le_of_lt h.2 (by decide)
  · exact Nat.lt_of_le_of_lt (Char.isDigit_iff_toNat.mp h).2 (by decide)
  · decide

theorem isWord_of_isNameChar {c : Char} (h : Token.isNameChar c) : Text.isWord c := by
  -- Names are ASCII, so it is enough to look at 128 characters.
  have hascii : Token.isNameChar c → Text.isWord c :=
    Text.of_ascii (P := fun c => Token.isNameChar c → Text.isWord c) (by decide +kernel)
      (toNat_lt_of_isNameChar h)
  exact hascii h

/-- A line put together from names and arguments is cut into them. The arguments of
    the condition hold no parenthesis, those of the action no line break. -/
theorem Shape.ofLine?_calls {condition conditionArgs action actionArgs : List Char}
    (hcondition : condition ≠ []) (hconditionChars : ∀ c ∈ condition, Token.isNameChar c)
    (haction : action ≠ []) (hactionChars : ∀ c ∈ action, Token.isNameChar c)
    (hplain : ∀ c ∈ conditionArgs, isPlain c) (hline : '\n' ∉ actionArgs) :
    ofLine? ("IF ".toList ++ (condition ++ '(' :: (conditionArgs ++ [')'])) ++
        " THEN ".toList ++ (action ++ '(' :: (actionArgs ++ [')']))) =
      some ⟨condition, conditionArgs, action, actionArgs⟩ := by
  -- One space in each of the three gaps and nothing in any of the others.
  have hgap : ∀ c ∈ [' '], Text.isBlank c := List.forall_mem_singleton.mpr (by decide)
  have hnone : ∀ c ∈ [], Text.isBlank c := List.forall_mem_nil _
  let first : OperatorCall := ⟨[' '], condition, [], conditionArgs, List.cons_ne_nil _ _, hgap,
    hcondition, fun c hc => isWord_of_isNameChar (hconditionChars c hc), hnone⟩
  let second : OperatorCall := ⟨[' '], action, [], actionArgs, List.cons_ne_nil _ _, hgap, haction,
    fun c hc => isWord_of_isNameChar (hactionChars c hc), hnone⟩
  let layout : Layout := ⟨[], ['I', 'F'], first, [' '], "THEN".toList, second, [], hnone, by decide,
    hplain, List.cons_ne_nil _ _, hgap, by decide, hline, hnone⟩
  -- The line is the text of this layout, so the cut finds its shape.
  have htext : "IF ".toList ++ (condition ++ '(' :: (conditionArgs ++ [')'])) ++
      " THEN ".toList ++ (action ++ '(' :: (actionArgs ++ [')'])) = layout.text := by
    rw [List.append_assoc, List.append_assoc, List.append_assoc, List.cons_append,
      List.append_assoc]
    rfl
  rw [htext]
  exact ofLine?_text layout

section Keyword

variable {α : Type} [Vocabulary α] [Vocabulary.Faithful α] [Vocabulary.Spelled α]

/-- Folding differs from lower case only where it leads from outside ASCII into it. -/
theorem folded_of_ascii {c : Char} (h : c.toLower.toNat < 128) :
    LineParts.folded c = c.toLower := by
  rw [LineParts.folded, if_neg, if_neg]
  · rintro rfl
    exact absurd h (by decide)
  · rintro rfl
    exact absurd h (by decide)

theorem toLower_lt_of_isNameChar {c : Char} (h : Token.isNameChar c) : c.toLower.toNat < 128 :=
  Text.toLower_lt_of_ascii (toNat_lt_of_isNameChar h)

/-- A keyword up to ASCII case passes in the cut. -/
theorem passesFor_of_isKeyword {name : String} (h : Vocabulary.IsKeyword α name) :
    LineParts.passesFor α name := by
  rcases h with ⟨a, ha⟩
  rw [LineParts.passesFor, List.any_eq_true]
  refine ⟨a, Vocabulary.Faithful.mem_words a, ?_⟩
  rw [beq_iff_eq, ha, Vocabulary.lowered]
  refine List.map_congr_left fun c hc => (folded_of_ascii ?_).symm
  -- In lower case every character of the name is one of the keyword.
  have hmem : c.toLower ∈ Vocabulary.lowered (Vocabulary.keyword a) := by
    rw [ha]
    exact List.mem_map_of_mem hc
  rcases List.mem_map.mp hmem with ⟨k, hk, hlower⟩
  rw [← hlower]
  exact toLower_lt_of_isNameChar (Vocabulary.isNameChar_of_mem_keyword hk)

theorem passesFor_keyword (a : α) : LineParts.passesFor α (Vocabulary.keyword a) :=
  passesFor_of_isKeyword ⟨a, rfl⟩

theorem operator?_keyword (a : α) : operator? α (Vocabulary.keyword a) = some a := by
  rw [operator?, Token.trim_keyword, String.ofList_toList, Vocabulary.ofKeywordAnyCase?_keyword]

end Keyword

end TileTriggers
