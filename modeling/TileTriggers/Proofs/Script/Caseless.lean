import TileTriggers.Proofs.Script.Diagnosis
import TileTriggers.Proofs.Text.Folding

/-!
# Two Notions of Case

Operator words are compared twice. The cut of a line lets a word pass that differs from a
keyword in case alone, and case is meant as Unicode means it. The look-up that follows
knows the case of ASCII letters only. The two agree on every word without a lookalike,
which is one of two characters outside ASCII that fold to an ASCII letter.

A word with one of the two can pass and yet be no keyword. It is not reported by the cut
then, but goes on to be looked up, and is reported there in the same words. This is why
the outcome of a line as a whole does not show the difference.

Which characters fold to which is told by the table of foldings, and the cut has a rule
of its own for keywords. They are ASCII, and the rule says what the table says wherever
either of them leads into ASCII.

## Main definitions

* `LineParts.Passes`: A word is a keyword but for case.
* `LineParts.CutByFolding`: What the cut makes of a line that is laid out as a script.

## Theorems

* `LineParts.folding_eq_iff`: The rule for keywords says what the table says.
* `LineParts.passesFor_iff`: The cut lets the words pass that it should.
* `LineParts.isKeyword_of_passes`: Which of them are keywords for certain.
* `LineParts.ofLine_eq_ok_iff`, `LineParts.ofLine_eq_unknownCondition_iff`,
  `LineParts.ofLine_eq_unknownAction_iff`: Each outcome of the cut.
* `LineParts.ofLine_of_not_keywords`: Lines that are refused for certain.
* `LineParts.ofLine_by_folding`: The outcome of the cut.
* `LineParts.passes_unknown`: A word that passes and is no keyword.
-/

namespace TileTriggers

namespace LineParts

open Text

/-- What folds to the same as an ASCII character by the table is what the rule for keywords
    takes to its lower case. -/
theorem folding_eq_iff {k c : Char} (hk : k.toNat < 128) :
    folding k = folding c ↔ k.toLower = folded c := by
  rw [folding_of_ascii hk, ← Char.toNat_inj]
  -- On ASCII both fold to lower case, so what is left is what folds into ASCII.
  by_cases hc : c.toNat < 128
  · rw [folding_of_ascii hc, folded_of_ascii (toLower_lt_of_ascii hc)]
  · by_cases hlook : IsLookalike c
    · rcases hlook with rfl | rfl
      · rw [show folding '\u017f' = ('s').toNat by decide +kernel]
        rfl
      · rw [show folding '\u212a' = ('k').toNat by decide +kernel]
        rfl
    · -- Nothing outside ASCII is the lower case of a keyword character.
      have hle := le_folding (not_lt.mp hc) hlook
      have hfolded : folded c = c := by
        rw [folded, if_neg fun h => hlook (Or.inl h), if_neg fun h => hlook (Or.inr h),
          toLower_of_le (not_lt.mp hc)]
      rw [hfolded]
      constructor
      · intro h
        exact absurd (h ▸ hle) (not_le.mpr (toLower_lt_of_ascii hk))
      · intro h
        exact absurd (h ▸ toLower_lt_of_ascii hk) hc

section Words

variable {α : Type} [Vocabulary α]

theorem toNat_lt_of_mem_keyword [Vocabulary.Faithful α] [Vocabulary.Spelled α] (a : α) :
    ∀ k ∈ (Vocabulary.keyword a).toList, k.toNat < 128 :=
  fun _ hk => toNat_lt_of_isNameChar (Vocabulary.isNameChar_of_mem_keyword hk)

/-- A word that folds to the same as a keyword. -/
def Passes (α : Type) [Vocabulary α] (word : List Char) : Prop :=
  ∃ a : α, (Vocabulary.keyword a).toList.map folding = word.map folding

theorem map_folding_eq_iff {keyword word : List Char} (h : ∀ k ∈ keyword, k.toNat < 128) :
    keyword.map folding = word.map folding ↔ keyword.map Char.toLower = word.map folded := by
  induction keyword generalizing word with
  | nil => rw [List.map_nil, List.map_nil, List.nil_eq, List.nil_eq, List.map_eq_nil_iff,
      List.map_eq_nil_iff]
  | cons k keyword ih =>
      rw [List.forall_mem_cons] at h
      cases word with
      | nil => simp only [List.map_cons, List.map_nil, reduceCtorEq]
      | cons c word =>
          rw [List.map_cons, List.map_cons, List.map_cons, List.map_cons, List.cons_eq_cons,
            List.cons_eq_cons, folding_eq_iff h.1, ih h.2]

/-- The cut lets the words pass that are keywords but for case. -/
theorem passesFor_iff [Vocabulary.Faithful α] [Vocabulary.Spelled α] {word : List Char} :
    passesFor α (String.ofList word) = true ↔ Passes α word := by
  rw [passesFor, List.any_eq_true, Passes]
  simp only [beq_iff_eq, Vocabulary.Faithful.mem_words, true_and, String.toList_ofList,
    Vocabulary.lowered, map_folding_eq_iff (toNat_lt_of_mem_keyword _)]

theorem passes_of_isKeyword [Vocabulary.Faithful α] [Vocabulary.Spelled α] {word : List Char}
    (h : Vocabulary.IsKeyword α (String.ofList word)) : Passes α word :=
  passesFor_iff.mp (passesFor_of_isKeyword h)

/-- A word that passes is a keyword unless one of its characters only looks like a letter
    of it. -/
theorem isKeyword_of_passes [Vocabulary.Faithful α] [Vocabulary.Spelled α] {word : List Char}
    (h : Passes α word) (hword : ∀ c ∈ word, ¬ IsLookalike c) :
    Vocabulary.IsKeyword α (String.ofList word) := by
  rcases h with ⟨a, ha⟩
  refine ⟨a, ?_⟩
  rw [Vocabulary.lowered, Vocabulary.lowered, String.toList_ofList,
    (map_folding_eq_iff (toNat_lt_of_mem_keyword a)).mp ha]
  -- Without a lookalike, folding is what the rule for keywords does.
  refine List.map_congr_left fun c hc => ?_
  rw [folded, if_neg fun h => hword c hc (Or.inl h), if_neg fun h => hword c hc (Or.inr h)]

end Words

section Layout

open Vocabulary

variable {line : String} {l : Layout}

/-- What both words pass for is let through, and what is not is blamed on the condition
    unless that is known. -/
theorem ofLine_cases (htext : l.text = line.toList) :
    (Passes ConditionOp l.condition.word ∧ Passes ActionOp l.action.word ∧
        ofLine line = .ok l.shape.parts) ∨
      (IsKeyword ConditionOp (String.ofList l.condition.word) ∧
        ¬ Passes ActionOp l.action.word ∧
        ofLine line = .error (.unknownAction (String.ofList l.action.word))) ∨
      (¬ IsKeyword ConditionOp (String.ofList l.condition.word) ∧
        ¬ (Passes ConditionOp l.condition.word ∧ Passes ActionOp l.action.word) ∧
        ofLine line = .error (.unknownCondition (String.ofList l.condition.word))) := by
  -- The cut asks for both words at once, and by folding.
  have hboth : (passesFor ConditionOp l.shape.parts.condition &&
      passesFor ActionOp l.shape.parts.action) = true ↔
        Passes ConditionOp l.condition.word ∧ Passes ActionOp l.action.word := by
    rw [Bool.and_eq_true]
    exact and_congr passesFor_iff passesFor_iff
  rw [ofLine, Shape.ofLine?_eq_some_iff.mpr ⟨l, htext, rfl⟩]
  simp only
  by_cases hpass : Passes ConditionOp l.condition.word ∧ Passes ActionOp l.action.word
  · rw [if_pos (hboth.mpr hpass)]
    exact Or.inl ⟨hpass.1, hpass.2, rfl⟩
  · rw [if_neg (mt hboth.mp hpass)]
    -- What does not pass is looked up, the condition first.
    by_cases hcondition : IsKeyword ConditionOp l.shape.parts.condition
    · rcases exists_of_isKeyword hcondition with ⟨op, hop⟩
      rw [hop]
      exact Or.inr (Or.inl ⟨hcondition,
        fun h => hpass ⟨passes_of_isKeyword hcondition, h⟩, rfl⟩)
    · rw [ofKeywordAnyCase?_eq_none_iff.mpr hcondition]
      exact Or.inr (Or.inr ⟨hcondition, hpass, rfl⟩)

/-- The parts are let through exactly when both words pass. -/
theorem ofLine_eq_ok_iff (htext : l.text = line.toList) {parts : LineParts} :
    ofLine line = .ok parts ↔
      parts = l.shape.parts ∧ Passes ConditionOp l.condition.word ∧
        Passes ActionOp l.action.word := by
  rcases ofLine_cases htext with ⟨hcondition, haction, h⟩ | ⟨-, haction, h⟩ | ⟨-, hpass, h⟩
  · simp only [h, hcondition, haction, Except.ok.injEq, eq_comm, and_true]
  · simp only [h, haction, reduceCtorEq, and_false]
  · simp only [h, hpass, reduceCtorEq, and_false]

theorem ofLine_eq_unknownCondition_iff (htext : l.text = line.toList) {name : String} :
    ofLine line = .error (.unknownCondition name) ↔
      name = String.ofList l.condition.word ∧ ¬ IsKeyword ConditionOp name ∧
        ¬ (Passes ConditionOp l.condition.word ∧ Passes ActionOp l.action.word) := by
  -- Of the three outcomes only the last one reports a condition.
  rcases ofLine_cases htext with
    ⟨hcondition, haction, h⟩ | ⟨hcondition, -, h⟩ | ⟨hcondition, hpass, h⟩
  · simp only [h, hcondition, haction, reduceCtorEq, and_self, not_true_eq_false, and_false]
  · simp only [h, Except.error.injEq, reduceCtorEq, false_iff]
    rintro ⟨rfl, hnot, -⟩
    exact hnot hcondition
  · simp only [h, Except.error.injEq, ScriptError.unknownCondition.injEq]
    constructor
    · rintro rfl
      exact ⟨rfl, hcondition, hpass⟩
    · rintro ⟨rfl, -, -⟩
      rfl

theorem ofLine_eq_unknownAction_iff (htext : l.text = line.toList) {name : String} :
    ofLine line = .error (.unknownAction name) ↔
      name = String.ofList l.action.word ∧
        IsKeyword ConditionOp (String.ofList l.condition.word) ∧
          ¬ Passes ActionOp l.action.word := by
  rcases ofLine_cases htext with ⟨-, haction, h⟩ | ⟨hcondition, haction, h⟩ | ⟨hcondition, -, h⟩
  · simp only [h, haction, reduceCtorEq, not_true_eq_false, and_false]
  · simp only [h, hcondition, haction, Except.error.injEq, ScriptError.unknownAction.injEq,
      eq_comm, not_false_eq_true, and_true]
  · simp only [h, hcondition, Except.error.injEq, reduceCtorEq, false_and, and_false]

/-- Without a lookalike in its words, a line is refused when one of them is no keyword. -/
theorem ofLine_of_not_keywords (htext : l.text = line.toList)
    (hword : ∀ c ∈ l.condition.word ++ l.action.word, ¬ IsLookalike c)
    (h : ¬ (IsKeyword ConditionOp (String.ofList l.condition.word) ∧
      IsKeyword ActionOp (String.ofList l.action.word))) :
    ofLine line = .error (.unknownCondition (String.ofList l.condition.word)) ∨
      ofLine line = .error (.unknownAction (String.ofList l.action.word)) := by
  rw [List.forall_mem_append] at hword
  rcases ofLine_cases htext with ⟨hcondition, haction, -⟩ | ⟨-, -, herror⟩ | ⟨-, -, herror⟩
  · -- Both words pass, so both are keywords.
    exact absurd ⟨isKeyword_of_passes hcondition hword.1, isKeyword_of_passes haction hword.2⟩ h
  · exact Or.inr herror
  · exact Or.inl herror

/-- What the cut makes of a line that is laid out as a script. -/
structure CutByFolding (line : String) (l : Layout) : Prop where
  /-- The parts are let through exactly when both words pass. -/
  accepts : ∀ parts, ofLine line = .ok parts ↔
    parts = l.shape.parts ∧ Passes ConditionOp l.condition.word ∧ Passes ActionOp l.action.word
  /-- A condition is reported when it is no keyword, but not if both words pass. -/
  unknownCondition : ∀ name, ofLine line = .error (.unknownCondition name) ↔
    name = String.ofList l.condition.word ∧ ¬ IsKeyword ConditionOp name ∧
      ¬ (Passes ConditionOp l.condition.word ∧ Passes ActionOp l.action.word)
  /-- An action is reported when it does not pass and the condition is a keyword. -/
  unknownAction : ∀ name, ofLine line = .error (.unknownAction name) ↔
    name = String.ofList l.action.word ∧
      IsKeyword ConditionOp (String.ofList l.condition.word) ∧ ¬ Passes ActionOp l.action.word
  /-- The words let through are keywords, unless they hold one of two characters. -/
  keywords : ∀ parts, ofLine line = .ok parts →
    ((∀ c ∈ parts.condition.toList, ¬ IsLookalike c) → IsKeyword ConditionOp parts.condition) ∧
      ((∀ c ∈ parts.action.toList, ¬ IsLookalike c) → IsKeyword ActionOp parts.action)
  /-- A line on which a word is no keyword is refused, unless a word holds one of the two. -/
  refuses : (∀ c ∈ l.condition.word ++ l.action.word, ¬ IsLookalike c) →
    ¬ (IsKeyword ConditionOp (String.ofList l.condition.word) ∧
      IsKeyword ActionOp (String.ofList l.action.word)) →
    ofLine line = .error (.unknownCondition (String.ofList l.condition.word)) ∨
      ofLine line = .error (.unknownAction (String.ofList l.action.word))
  /-- Words let through that are no keywords are reported when they are looked up. -/
  lookedUp : ∀ parts, ofLine line = .ok parts →
    (¬ IsKeyword ConditionOp parts.condition →
        parts.compile = .error (.unknownCondition parts.condition)) ∧
      (IsKeyword ConditionOp parts.condition → ¬ IsKeyword ActionOp parts.action →
        parts.compile = .error (.unknownAction parts.action))

theorem cutByFolding (htext : l.text = line.toList) : CutByFolding line l := by
  refine ⟨fun _ => ofLine_eq_ok_iff htext, fun _ => ofLine_eq_unknownCondition_iff htext,
    fun _ => ofLine_eq_unknownAction_iff htext, fun parts h => ?_, ofLine_of_not_keywords htext,
    fun parts h => ?_⟩
  · rcases (ofLine_eq_ok_iff htext).mp h with ⟨rfl, hcondition, haction⟩
    simp only [Shape.parts, Layout.shape, String.toList_ofList]
    exact ⟨isKeyword_of_passes hcondition, isKeyword_of_passes haction⟩
  · rcases (ofLine_eq_ok_iff htext).mp h with ⟨rfl, -, -⟩
    -- Compiling looks the words up again, and by the rule for keywords.
    exact ⟨Script.compile_of_unknown_condition l, Script.compile_of_unknown_action l⟩

/-- The cut goes by the layout of a line, which is not a script if it has none. Parts are
    let through when both words are keywords up to the case that Unicode knows. These are
    keywords for the look-up too, unless a long s or a Kelvin sign is among their
    characters, and then the look-up reports what the cut did not. -/
theorem ofLine_by_folding (line : String) :
    (ofLine line = .error .grammarMismatch ↔ ¬ ∃ l : Layout, l.text = line.toList) ∧
      ∀ l : Layout, l.text = line.toList → CutByFolding line l := by
  refine ⟨⟨?_, Script.ofLine_of_no_layout⟩, fun l htext => cutByFolding htext⟩
  -- With a layout every outcome is one of three, and this is none of them.
  rintro h ⟨l, htext⟩
  have hcases := ofLine_cases htext
  simp only [h, reduceCtorEq, Except.error.injEq, and_false, or_self] at hcases

/-- A word with the Kelvin sign for a K passes in the place of the condition and names no
    operator there. -/
theorem passes_unknown :
    ∃ parts, ofLine "IF \u212aILL(AND; [1]; IN_ORDER; ONCE) THEN WIN()" = .ok parts ∧
      (ofKeywordAnyCase? parts.condition : Option ConditionOp) = none :=
  ⟨⟨"\u212aILL", "(AND; [1]; IN_ORDER; ONCE)", "WIN", "()"⟩, by decide +kernel, by decide +kernel⟩

end Layout

end LineParts

end TileTriggers
