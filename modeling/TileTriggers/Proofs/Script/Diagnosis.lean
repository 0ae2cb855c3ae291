import TileTriggers.Proofs.Script.Line

/-!
# What Is Wrong with a Line

Reading a line asks three questions in a fixed order: is it laid out as a script, are
its words operators, and do its arguments fit. The answers are told apart by their
errors. Here it is shown that they never get mixed up.

The cut compares words with folding and the lookup without it, so a word can pass in
the cut and be refused later. Both places give the same error, and both go by the
same test: whether the word is a keyword up to ASCII case. What compares differently in
the two is invisible from outside.

Reading arguments could also report a line without a layout, since an argument list
without parentheses has no other error. A list that was cut from a line has its
parentheses, so this never happens, and all errors from there are about arguments.

## Main definitions

* `ScriptError.AboutReading`: The errors in reading arguments.
* `ScriptError.AboutArguments`: The errors about the arguments of known operators.

## Theorems

* `failsOnly_readFields`: An argument list is blamed for its arguments, or for being none.
* `failsOnly_readFields_inside`: Arguments in parentheses are blamed only for themselves.
* `Script.compile_of_unknown_condition`, `Script.compile_of_unknown_action`: Words that are
  no operators are reported when the parts of a line are compiled.
* `Script.parse_of_no_layout`, `Script.parse_of_unknown_condition`,
  `Script.parse_of_unknown_action`, `Script.parse_of_keywords`: The four outcomes.
* `Script.parse_by_layout`: Each error stands for what it says.
-/

namespace TileTriggers

open Fallible

/-- The errors in reading the arguments of operators that are known. Rules are not asked
    for yet. -/
def ScriptError.AboutReading : ScriptError → Prop
  | .grammarMismatch | .unknownCondition _ | .unknownAction _ | .invalid _ => False
  | .missingField .. | .extraField .. | .unreadableField .. | .unknownSpawnType _ => True

/-- The errors about the arguments of operators that are known. -/
def ScriptError.AboutArguments : ScriptError → Prop
  | .grammarMismatch | .unknownCondition _ | .unknownAction _ => False
  | .missingField .. | .extraField .. | .unreadableField .. | .unknownSpawnType _ | .invalid _ =>
    True

theorem ScriptError.AboutReading.aboutArguments {e : ScriptError} (h : e.AboutReading) :
    e.AboutArguments := by
  cases e with
  | grammarMismatch | unknownCondition | unknownAction | invalid => exact h.elim
  | missingField | extraField | unreadableField | unknownSpawnType => trivial

section Arguments

theorem failsOnly_orError {ε α : Type} {P : ε → Prop} {e : ε} (h : P e) (o : Option α) :
    FailsOnly P (orError e o) := by
  cases o with
  | none => exact failsOnly_error h
  | some a => exact failsOnly_ok a

theorem failsOnly_orInvalid {α : Type} (r : Except SchemaViolation α) :
    FailsOnly ScriptError.AboutArguments (orInvalid r) := by
  cases r with
  | error violation => exact failsOnly_error trivial
  | ok a => exact failsOnly_ok a

theorem failsOnly_resolve (s : NamedSpawn) : FailsOnly ScriptError.AboutReading s.resolve := by
  unfold NamedSpawn.resolve
  cases (Vocabulary.ofKeyword? s.name : Option TileType) with
  | none => exact failsOnly_error trivial
  | some kind => exact failsOnly_ok _

/-- A token is blamed with the error that was given for it, or for the name of a spawn. -/
theorem failsOnly_readField {error : ScriptError} (h : error.AboutReading) (kind : FieldKind)
    (token : List Char) : FailsOnly ScriptError.AboutReading (readField error kind token) := by
  cases kind with
  | spawnList =>
      refine (failsOnly_orError h _).bind fun named => ?_
      exact (FailsOnly.mapM failsOnly_resolve named).bind fun _ => failsOnly_ok _
  | combine | idList | cellList | order | «repeat» | millis | mapIndex | cell | text =>
      exact (failsOnly_orError h _).map _

theorem failsOnly_readTokens (op : Operator) (kinds : List FieldKind)
    (tokens : List (List Char)) (index : Nat) :
    FailsOnly ScriptError.AboutReading (readTokens op index kinds tokens) := by
  induction kinds generalizing index tokens with
  | nil => exact failsOnly_ok []
  | cons kind kinds ih =>
      cases tokens with
      | nil => exact failsOnly_error trivial
      | cons token tokens =>
          -- An empty token and a surplus argument are errors of their own.
          rw [readTokens]
          split
          · exact failsOnly_error trivial
          · split
            · exact failsOnly_error trivial
            · have herror : (ScriptError.unreadableField op index kind
                  (String.ofList token)).AboutReading := trivial
              refine (failsOnly_readField herror kind token).bind fun value => ?_
              exact (ih tokens (index + 1)).bind fun values => failsOnly_ok (value :: values)

/-- An argument list is blamed for its arguments, unless it has no parentheses and so is
    none. -/
theorem failsOnly_readFields (op : Operator) (args : String) :
    FailsOnly (fun e => e.AboutReading ∨
      e = .grammarMismatch ∧ insideParentheses? args.toList = none) (readFields op args) := by
  rw [readFields, arguments?]
  -- Without parentheses there are no arguments to be blamed.
  cases hinside : insideParentheses? args.toList with
  | none => exact failsOnly_error (Or.inr ⟨rfl, rfl⟩)
  | some inner =>
      refine (failsOnly_ok _).bind fun tokens => ?_
      split
      · exact failsOnly_error (Or.inl trivial)
      · exact (failsOnly_readTokens op op.schema tokens 0).mono fun _ => Or.inl

/-- Arguments in parentheses are blamed for themselves only. -/
theorem failsOnly_readFields_inside (op : Operator) (inner : List Char) :
    FailsOnly ScriptError.AboutArguments
      (readFields op (String.ofList ('(' :: (inner ++ [')'])))) := by
  refine (failsOnly_readFields op _).mono fun e he => ?_
  rw [String.toList_ofList, insideParentheses?_self] at he
  rcases he with he | ⟨-, hnone⟩
  · exact he.aboutArguments
  · exact absurd hnone (by simp only [reduceCtorEq, not_false_eq_true])

end Arguments

section Operators

variable {α : Type} [Vocabulary α]

/-- A word of a line has no blanks at its ends, so it is looked up as it is. -/
theorem operator?_of_isWord {word : List Char} (h : ∀ c ∈ word, Text.isWord c) :
    operator? α (String.ofList word) = Vocabulary.ofKeywordAnyCase? (String.ofList word) := by
  have htrim : Text.trim word = word :=
    Text.trimBy_eq_self_iff.mpr (Text.tight_of_forall fun c hc => Text.isBlank_of_isWord (h c hc))
  rw [operator?, String.toList_ofList, htrim]

theorem exists_of_isKeyword [Vocabulary.Faithful α] {name : String}
    (h : Vocabulary.IsKeyword α name) :
    ∃ op : α, Vocabulary.ofKeywordAnyCase? name = some op := by
  rw [← Option.ne_none_iff_exists', ne_eq, Vocabulary.ofKeywordAnyCase?_eq_none_iff, not_not]
  exact h

end Operators

namespace Script

open Vocabulary

variable {line : String}

/-- A line without a layout is not cut. -/
theorem ofLine_of_no_layout (h : ¬ ∃ l : Layout, l.text = line.toList) :
    LineParts.ofLine line = .error .grammarMismatch := by
  -- Whatever the cut finds is the shape of a layout.
  have hnone : Shape.ofLine? line.toList = none := by
    rw [Option.eq_none_iff_forall_ne_some]
    intro s hs
    rcases Shape.ofLine?_eq_some_iff.mp hs with ⟨l, hl, -⟩
    exact h ⟨l, hl⟩
  rw [LineParts.ofLine, hnone]

/-- A line without a layout is no script. -/
theorem parse_of_no_layout (h : ¬ ∃ l : Layout, l.text = line.toList) :
    parse line = .error .grammarMismatch := by
  rw [parse, ofLine_of_no_layout h, error_bind]

section Layout

variable {l : Layout}

/-- What the cut lets pass is compiled. What it does not let pass is blamed on the
    condition, unless that is known. -/
theorem parse_of_layout (htext : l.text = line.toList) :
    parse line =
      if LineParts.passesFor ConditionOp l.shape.parts.condition &&
          LineParts.passesFor ActionOp l.shape.parts.action then l.shape.parts.compile
      else
        match (ofKeywordAnyCase? l.shape.parts.condition : Option ConditionOp) with
        | none => .error (.unknownCondition l.shape.parts.condition)
        | some _ => .error (.unknownAction l.shape.parts.action) := by
  rw [parse, LineParts.ofLine, Shape.ofLine?_eq_some_iff.mpr ⟨l, htext, rfl⟩]
  simp only
  split
  · rw [ok_bind]
  · cases (ofKeywordAnyCase? l.shape.parts.condition : Option ConditionOp) with
    | none => rw [error_bind]
    | some conditionOp => rw [error_bind]

theorem conditionOp?_of_layout (l : Layout) :
    operator? ConditionOp l.shape.parts.condition =
      ofKeywordAnyCase? (String.ofList l.condition.word) :=
  operator?_of_isWord l.condition.word_chars

theorem actionOp?_of_layout (l : Layout) :
    operator? ActionOp l.shape.parts.action = ofKeywordAnyCase? (String.ofList l.action.word) :=
  operator?_of_isWord l.action.word_chars

/-- A condition that is no keyword is reported when the parts are compiled. -/
theorem compile_of_unknown_condition (l : Layout)
    (h : ¬ IsKeyword ConditionOp l.shape.parts.condition) :
    l.shape.parts.compile = .error (.unknownCondition l.shape.parts.condition) := by
  have hnone : operator? ConditionOp l.shape.parts.condition = none :=
    (conditionOp?_of_layout l).trans (ofKeywordAnyCase?_eq_none_iff.mpr h)
  rw [LineParts.compile, hnone, orError, error_bind]

/-- So is an action, once the condition is known. -/
theorem compile_of_unknown_action (l : Layout)
    (hcondition : IsKeyword ConditionOp l.shape.parts.condition)
    (h : ¬ IsKeyword ActionOp l.shape.parts.action) :
    l.shape.parts.compile = .error (.unknownAction l.shape.parts.action) := by
  rcases exists_of_isKeyword hcondition with ⟨op, hop⟩
  have hsome : operator? ConditionOp l.shape.parts.condition = some op :=
    (conditionOp?_of_layout l).trans hop
  have hnone : operator? ActionOp l.shape.parts.action = none :=
    (actionOp?_of_layout l).trans (ofKeywordAnyCase?_eq_none_iff.mpr h)
  rw [LineParts.compile, hsome, hnone, orError, ok_bind, orError, error_bind]

/-- A word in the place of the condition that is no keyword is reported, whether the cut
    lets it pass or not. -/
theorem parse_of_unknown_condition (htext : l.text = line.toList)
    (h : ¬ IsKeyword ConditionOp (String.ofList l.condition.word)) :
    parse line = .error (.unknownCondition (String.ofList l.condition.word)) := by
  have hnone := ofKeywordAnyCase?_eq_none_iff.mpr h
  -- It is reported by the cut or by the look-up, and in the same words.
  rw [parse_of_layout htext, compile_of_unknown_condition l h, Shape.parts]
  simp only [Layout.shape, hnone, ite_self]

/-- The same of a word in the place of the action, once the condition is known. -/
theorem parse_of_unknown_action (htext : l.text = line.toList)
    (hcondition : IsKeyword ConditionOp (String.ofList l.condition.word))
    (h : ¬ IsKeyword ActionOp (String.ofList l.action.word)) :
    parse line = .error (.unknownAction (String.ofList l.action.word)) := by
  rcases exists_of_isKeyword hcondition with ⟨conditionOp, hconditionOp⟩
  rw [parse_of_layout htext, compile_of_unknown_action l hcondition h, Shape.parts]
  simp only [Layout.shape, hconditionOp, ite_self]

/-- With two known operators only the arguments are left to be wrong. -/
theorem parse_of_keywords (htext : l.text = line.toList)
    (hcondition : IsKeyword ConditionOp (String.ofList l.condition.word))
    (haction : IsKeyword ActionOp (String.ofList l.action.word)) :
    parse line = l.shape.parts.compile ∧
      FailsOnly ScriptError.AboutArguments l.shape.parts.compile := by
  rcases exists_of_isKeyword hcondition with ⟨conditionOp, hconditionOp⟩
  rcases exists_of_isKeyword haction with ⟨actionOp, hactionOp⟩
  constructor
  · -- A keyword in any case passes the cut, so the parts are compiled.
    have hpasses : LineParts.passesFor ConditionOp l.shape.parts.condition &&
        LineParts.passesFor ActionOp l.shape.parts.action := by
      rw [Bool.and_eq_true]
      exact ⟨passesFor_of_isKeyword hcondition, passesFor_of_isKeyword haction⟩
    rw [parse_of_layout htext, if_pos hpasses]
  · rw [LineParts.compile, conditionOp?_of_layout, hconditionOp, actionOp?_of_layout, hactionOp]
    refine (failsOnly_ok conditionOp).bind fun conditionOp => ?_
    refine (failsOnly_ok actionOp).bind fun actionOp => ?_
    -- The arguments of both sides, each held against its schema, and the rules at the end.
    refine (failsOnly_readFields_inside _ _).bind fun conditionFields => ?_
    refine (failsOnly_orInvalid _).bind fun condition => ?_
    refine (failsOnly_readFields_inside _ _).bind fun actionFields => ?_
    refine (failsOnly_orInvalid _).bind fun action => ?_
    simp only
    split
    · exact failsOnly_error trivial
    · exact failsOnly_ok _

end Layout

/-- A line has one of four outcomes, and its layout tells which. -/
theorem parse_cases (line : String) :
    ((¬ ∃ l : Layout, l.text = line.toList) ∧ parse line = .error .grammarMismatch) ∨
      ∃ l : Layout, l.text = line.toList ∧
        ((¬ IsKeyword ConditionOp (String.ofList l.condition.word) ∧
            parse line = .error (.unknownCondition (String.ofList l.condition.word))) ∨
          (IsKeyword ConditionOp (String.ofList l.condition.word) ∧
            ¬ IsKeyword ActionOp (String.ofList l.action.word) ∧
            parse line = .error (.unknownAction (String.ofList l.action.word))) ∨
          FailsOnly ScriptError.AboutArguments (parse line)) := by
  by_cases hlayout : ∃ l : Layout, l.text = line.toList
  · rcases hlayout with ⟨l, hl⟩
    refine Or.inr ⟨l, hl, ?_⟩
    -- The condition is looked at before the action, and the action before the arguments.
    by_cases hcondition : IsKeyword ConditionOp (String.ofList l.condition.word)
    · by_cases haction : IsKeyword ActionOp (String.ofList l.action.word)
      · rcases parse_of_keywords hl hcondition haction with ⟨hparse, hfails⟩
        rw [hparse]
        exact Or.inr (Or.inr hfails)
      · exact Or.inr (Or.inl ⟨hcondition, haction, parse_of_unknown_action hl hcondition haction⟩)
    · exact Or.inl ⟨hcondition, parse_of_unknown_condition hl hcondition⟩
  · exact Or.inl ⟨hlayout, parse_of_no_layout hlayout⟩

/-- A line is no script exactly when it has no layout. -/
theorem parse_eq_grammarMismatch_iff :
    parse line = .error .grammarMismatch ↔ ¬ ∃ l : Layout, l.text = line.toList := by
  constructor
  · intro h
    -- Of the four outcomes only that without a layout has this error.
    have hcases := parse_cases line
    simp only [h, Except.error.injEq, reduceCtorEq, failsOnly_error_iff,
      ScriptError.AboutArguments, and_false, or_false, exists_false, and_true] at hcases
    exact hcases
  · exact parse_of_no_layout

/-- A condition is unknown exactly when it is the word of a layout and no keyword. -/
theorem parse_eq_unknownCondition_iff {name : String} :
    parse line = .error (.unknownCondition name) ↔
      ∃ l : Layout, l.text = line.toList ∧ name = String.ofList l.condition.word ∧
        ¬ IsKeyword ConditionOp name := by
  constructor
  · intro h
    have hcases := parse_cases line
    simp only [h, Except.error.injEq, reduceCtorEq, ScriptError.unknownCondition.injEq,
      failsOnly_error_iff, ScriptError.AboutArguments, and_false, or_false, false_or] at hcases
    rcases hcases with ⟨l, hl, hcondition, rfl⟩
    exact ⟨l, hl, rfl, hcondition⟩
  · rintro ⟨l, hl, rfl, hcondition⟩
    exact parse_of_unknown_condition hl hcondition

/-- An action is unknown exactly when it is the word of a layout and no keyword, and the
    condition is one. -/
theorem parse_eq_unknownAction_iff {name : String} :
    parse line = .error (.unknownAction name) ↔
      ∃ l : Layout, l.text = line.toList ∧ name = String.ofList l.action.word ∧
        IsKeyword ConditionOp (String.ofList l.condition.word) ∧ ¬ IsKeyword ActionOp name := by
  constructor
  · intro h
    have hcases := parse_cases line
    simp only [h, Except.error.injEq, reduceCtorEq, ScriptError.unknownAction.injEq,
      failsOnly_error_iff, ScriptError.AboutArguments, and_false, or_false, false_or] at hcases
    rcases hcases with ⟨l, hl, hcondition, haction, rfl⟩
    exact ⟨l, hl, rfl, hcondition, haction⟩
  · rintro ⟨l, hl, rfl, hcondition, haction⟩
    exact parse_of_unknown_action hl hcondition haction

/-- A line is laid out in at most one way, and its reading goes by the layout: it is no
    script exactly when it has none, a word is unknown exactly when it is no keyword up
    to ASCII case, and otherwise the line is compiled from its four parts. -/
theorem parse_by_layout (line : String) :
    (∀ l l' : Layout, l.text = line.toList → l'.text = line.toList → l = l') ∧
      (parse line = .error .grammarMismatch ↔ ¬ ∃ l : Layout, l.text = line.toList) ∧
      (∀ e, parse line = .error e → e.errorClass = .grammarMismatch →
        ¬ ∃ l : Layout, l.text = line.toList) ∧
      (∀ name, parse line = .error (.unknownCondition name) ↔
        ∃ l : Layout, l.text = line.toList ∧ name = String.ofList l.condition.word ∧
          ¬ IsKeyword ConditionOp name) ∧
      (∀ name, parse line = .error (.unknownAction name) ↔
        ∃ l : Layout, l.text = line.toList ∧ name = String.ofList l.action.word ∧
          IsKeyword ConditionOp (String.ofList l.condition.word) ∧ ¬ IsKeyword ActionOp name) ∧
      ∀ l : Layout, l.text = line.toList →
        IsKeyword ConditionOp (String.ofList l.condition.word) →
        IsKeyword ActionOp (String.ofList l.action.word) →
        parse line = LineParts.compile
          ⟨String.ofList l.condition.word, String.ofList ('(' :: (l.condition.args ++ [')'])),
            String.ofList l.action.word, String.ofList ('(' :: (l.action.args ++ [')']))⟩ := by
  refine ⟨fun l l' h h' => Layout.text_injective (h.trans h'.symm), parse_eq_grammarMismatch_iff,
    fun e he hclass => ?_, fun _ => parse_eq_unknownCondition_iff,
    fun _ => parse_eq_unknownAction_iff,
    fun l hl hcondition haction => (parse_of_keywords hl hcondition haction).1⟩
  -- Only one error is in the class of lines that are no script.
  have hmismatch : e = .grammarMismatch := by
    cases e with
    | grammarMismatch => rfl
    | _ => exact absurd hclass (by simp only [ScriptError.errorClass, reduceCtorEq,
        not_false_eq_true])
  rw [hmismatch] at he
  exact parse_eq_grammarMismatch_iff.mp he

/-- The Kelvin sign passes for a K in the cut, but a word with it is no keyword. -/
example : parse "if \u212aill([1]) then win()" = .error (.unknownCondition "\u212aill") := by
  decide +kernel

end Script

end TileTriggers
