import TileTriggers.Proofs.Schema
import TileTriggers.Proofs.Script.Line

/-!
# Scripts and Their Lines

A script is read back from its canonical line exactly when it breaks no rule. The
reader holds what it has read against the rules last, so nothing that it returns
breaks one, whatever the line was. Conversely the rules are all that the way back
needs: with them every argument is read back, the arguments of each side are cut
where they were joined, and the line is cut where it was put together.

Most rules matter to a single step of this. A text with a blank at its end would
lose it, an empty one would be missed, and a line break would end the line. The
limits on counts and the ban on other characters matter to none, so a line that
breaks only these is refused at the very end.

## Theorems

* `Script.valid_of_compile`, `Script.valid_of_parse`: What is read breaks no rule.
* `Script.parse_text_of_valid`: A script that breaks no rule is read back.
* `Script.parse_text_eq_ok_iff`: No other script is.
-/

namespace TileTriggers

theorem ConditionOp.text_notMem_schema (op : ConditionOp) : FieldKind.text ∉ op.schema := by
  cases op <;> decide

theorem ActionOp.length_schema_of_text (op : ActionOp) :
    FieldKind.text ∈ op.schema → op.schema.length = 1 := by
  cases op <;> decide

namespace Script

/-- Whatever the parts of a line are, a script that is compiled from them breaks no
    rule. -/
theorem valid_of_compile {parts : LineParts} {s : Script} (h : parts.compile = .ok s) :
    s.Valid := by
  unfold LineParts.compile at h
  simp only [Fallible.bind_eq_ok] at h
  -- Only the last step matters, which is where the rules are asked for.
  rcases h with ⟨conditionOp, -, actionOp, -, conditionFields, -, condition, -, actionFields, -,
    action, -, h⟩
  split at h
  · exact absurd h (by simp only [throw, throwThe, MonadExceptOf.throw, reduceCtorEq,
      not_false_eq_true])
  · rename_i hnone
    rw [← Except.ok.inj h]
    exact hnone

theorem valid_of_parse {line : String} {s : Script} (h : parse line = .ok s) : s.Valid := by
  rw [parse, Fallible.bind_eq_ok] at h
  rcases h with ⟨parts, -, h⟩
  exact valid_of_compile h

section Valid

variable {s : Script}

theorem violation?_of_valid (h : s.Valid) :
    (∀ v ∈ s.condition.fields, v.violation? = none) ∧
      ∀ v ∈ s.action.fields, v.violation? = none := by
  have hfields := List.findSome?_eq_none_iff.mp h
  rw [fields, List.forall_mem_append] at hfields
  exact hfields

/-- The arguments of a condition hold no parenthesis. -/
theorem isPlain_of_mem_condition {c : Char} (h : c ∈ joined s.condition.fields) :
    Shape.isPlain c := by
  -- The schema of a condition asks for no text, so all characters are argument characters.
  have hrender : ∀ d, isArgumentChar d = false → ∀ v ∈ s.condition.fields, d ∉ v.render := by
    intro d hd v hv
    refine not_mem_of_alphabet (fun _ => FieldValue.isArgumentChar_of_mem_render ?_) hd
    intro hkind
    have hmem := List.mem_map_of_mem (f := FieldValue.kind) hv
    rw [Condition.kinds_fields, hkind] at hmem
    exact ConditionOp.text_notMem_schema _ hmem
  have hopening : c ≠ '(' := by
    rintro rfl
    exact notMem_joined (by decide) (by decide) (hrender '(' (by decide)) h
  have hclosing : c ≠ ')' := by
    rintro rfl
    exact notMem_joined (by decide) (by decide) (hrender ')' (by decide)) h
  simp only [Shape.isPlain, bne_iff_ne, ne_eq, hopening, hclosing, not_false_eq_true,
    Bool.and_eq_true, and_self]

/-- The cut of the canonical line. -/
theorem ofLine?_render (h : s.Valid) :
    Shape.ofLine? s.render = some
      ⟨(Vocabulary.keyword s.condition.op).toList, joined s.condition.fields,
        (Vocabulary.keyword s.action.op).toList, joined s.action.fields⟩ := by
  rcases violation?_of_valid h with ⟨-, haction⟩
  refine Shape.ofLine?_calls (Vocabulary.keyword_ne_nil _)
    (fun _ => Vocabulary.isNameChar_of_mem_keyword) (Vocabulary.keyword_ne_nil _)
    (fun _ => Vocabulary.isNameChar_of_mem_keyword) (fun _ => isPlain_of_mem_condition) ?_
  exact notMem_joined (by decide) (by decide) fun v hv =>
    FieldValue.newline_notMem_render (haction v hv)

/-- A script that breaks no rule is read back from its canonical line. -/
theorem parse_text_of_valid (h : s.Valid) : parse s.text = .ok s := by
  rcases violation?_of_valid h with ⟨hcondition, haction⟩
  have hconditionFields := readFields_joined (.condition s.condition.op)
    s.condition.kinds_fields
    (fun hmem => absurd hmem (ConditionOp.text_notMem_schema _)) hcondition
  have hactionFields := readFields_joined (.action s.action.op)
    s.action.kinds_fields (ActionOp.length_schema_of_text _) haction
  -- The cut finds the two keywords, and keywords pass.
  have hparts : LineParts.ofLine s.text = .ok
      ⟨Vocabulary.keyword s.condition.op,
        String.ofList ('(' :: (joined s.condition.fields ++ [')'])),
        Vocabulary.keyword s.action.op,
        String.ofList ('(' :: (joined s.action.fields ++ [')']))⟩ := by
    rw [LineParts.ofLine, text, String.toList_ofList, ofLine?_render h]
    simp only [Shape.parts, String.ofList_toList, passesFor_keyword, Bool.and_self, if_true]
  -- Both sides are read, so only the rules are left, and none is broken.
  rw [parse, hparts, Fallible.bind_eq_ok]
  refine ⟨_, rfl, ?_⟩
  unfold LineParts.compile
  simp only [operator?_keyword, orError, Fallible.bind_eq_ok]
  refine ⟨_, rfl, _, rfl, _, hconditionFields, s.condition, ?_, _, hactionFields, s.action, ?_, ?_⟩
  · rw [Condition.ofFields_eq_ok_iff.mpr ⟨rfl, rfl⟩]
    rfl
  · rw [Action.ofFields_eq_ok_iff.mpr ⟨rfl, rfl⟩]
    rfl
  · rw [Script.Valid] at h
    rw [h]
    rfl

end Valid

/-- A script is read back from its canonical line exactly when it breaks no rule. -/
theorem parse_text_eq_ok_iff (s : Script) : parse s.text = .ok s ↔ s.Valid :=
  ⟨valid_of_parse, parse_text_of_valid⟩

end Script

end TileTriggers
