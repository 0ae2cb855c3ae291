import TileTriggers.Script.Basic

/-!
# Schemas and Positional Forms

A condition or an action is its operator together with its positional form, and
nothing more: `fields` follows the schema of the operator, and `ofFields` undoes
it and accepts nothing else. Readers and writers handle arguments by position, so
all they have to know about operators is stated here.

What an operator is built from is taken without a look at the schema. `Take.Undoes`
says of what is taken that it is a positional form at the front of the arguments and
that nothing behind it is touched. With nothing left behind it, the arguments are the
positional form, and this follows the schema.

## Main definitions

* `Take.Undoes`: What is taken from the front is a positional form.

## Theorems

* `Take.undoes_trigger`: The arguments of a trigger are taken in their order.
* `Take.finish_eq_ok_iff`, `Take.finish_eq_error`: What is left over decides.
* `Condition.kinds_fields`, `Action.kinds_fields`: The positional form follows the
  schema.
* `Condition.take_eq_some_iff`, `Action.take_eq_some_iff`: What is taken for an operator.
* `Condition.ofFields_eq_ok_iff`, `Action.ofFields_eq_ok_iff`: What an operator and
  arguments amount to.
* `Condition.eq_of_fields`, `Action.eq_of_fields`: Operator and positional form are all.
* `Condition.exists_ofFields`, `Action.exists_ofFields`: Arguments that follow the schema
  amount to something.
-/

namespace TileTriggers

namespace Take

variable {α β : Type} {t : Take α} {fields rest : List FieldValue}

/-- What is taken undoes a positional form. The arguments begin with the form of what is
    found, and those behind it are left. -/
def Undoes (t : Take α) (form : α → List FieldValue) : Prop :=
  ∀ fields a rest, t fields = some (a, rest) ↔ fields = form a ++ rest

theorem bind_eq_some_iff {k : α → Take β} {b : β} :
    (t >>= k) fields = some (b, rest) ↔
      ∃ a between, t fields = some (a, between) ∧ k a between = some (b, rest) := by
  change ((t fields).bind fun p => k p.1 p.2) = _ ↔ _
  rw [Option.bind_eq_some_iff, Prod.exists]

theorem pure_eq_some_iff {a b : α} :
    (pure a : Take α) fields = some (b, rest) ↔ a = b ∧ fields = rest := by
  change some (a, fields) = _ ↔ _
  rw [Option.some.injEq, Prod.mk.injEq]

theorem map_eq_some_iff {f : α → β} {b : β} :
    (f <$> t) fields = some (b, rest) ↔ ∃ a, t fields = some (a, rest) ∧ f a = b := by
  rw [map_eq_pure_bind, bind_eq_some_iff]
  simp only [pure_eq_some_iff]
  constructor
  · rintro ⟨a, between, ht, hf, rfl⟩
    exact ⟨a, ht, hf⟩
  · rintro ⟨a, ht, hf⟩
    exact ⟨a, rest, ht, hf, rfl⟩

/-- The next argument is taken exactly when it is the argument that a value wraps to. -/
theorem undoes_next {pick : FieldValue → Option α} {wrap : α → FieldValue}
    (h : ∀ value a, pick value = some a ↔ value = wrap a) :
    Undoes (next pick) fun a => [wrap a] := by
  intro fields a rest
  cases fields with
  | nil => simp [next]
  | cons value fields =>
      -- One argument is taken, and what is behind it is handed on as it is.
      rw [next, Option.map_eq_some_iff, List.singleton_append, List.cons.injEq, ← h]
      simp [and_left_comm]

theorem undoes_combine : Undoes combine fun value => [.combine value] :=
  undoes_next fun value _ => by cases value <;> simp

theorem undoes_ids : Undoes ids fun values => [.ids values] :=
  undoes_next fun value _ => by cases value <;> simp

theorem undoes_cells : Undoes cells fun values => [.cells values] :=
  undoes_next fun value _ => by cases value <;> simp

theorem undoes_spawns : Undoes spawns fun values => [.spawns values] :=
  undoes_next fun value _ => by cases value <;> simp

theorem undoes_order : Undoes order fun value => [.order value] :=
  undoes_next fun value _ => by cases value <;> simp

theorem undoes_repeats : Undoes repeats fun value => [.repeat value] :=
  undoes_next fun value _ => by cases value <;> simp

theorem undoes_millis : Undoes millis fun value => [.millis value] :=
  undoes_next fun value _ => by cases value <;> simp

theorem undoes_mapIndex : Undoes mapIndex fun value => [.mapIndex value] :=
  undoes_next fun value _ => by cases value <;> simp

theorem undoes_cell : Undoes cell fun value => [.cell value] :=
  undoes_next fun value _ => by cases value <;> simp

theorem undoes_text : Undoes text fun value => [.text value] :=
  undoes_next fun value _ => by cases value <;> simp

/-- The arguments of a trigger are taken in the order of its positional form. -/
theorem undoes_trigger {items : Take (List α)} {wrap : List α → FieldValue}
    (h : Undoes items fun values => [wrap values]) :
    Undoes (trigger items) (Trigger.fields wrap) := by
  intro fields t rest
  -- Four steps one after the other, each of which undoes one argument.
  simp only [trigger, bind_eq_some_iff, pure_eq_some_iff, undoes_combine _ _ _, h _ _ _,
    undoes_order _ _ _, undoes_repeats _ _ _]
  constructor
  · rintro ⟨a, -, rfl, xs, -, rfl, o, -, rfl, r, -, rfl, rfl, rfl⟩
    rfl
  · rintro rfl
    exact ⟨t.combine, _, rfl, t.items, _, rfl, t.order, _, rfl, t.repeats, rest, rfl, rfl, rfl⟩

/-- What is taken and then wrapped undoes the form of what is inside. -/
theorem Undoes.map_eq_some_iff {form : α → List FieldValue} (h : Undoes t form) {wrap : α → β}
    {b : β} : (wrap <$> t) fields = some (b, rest) ↔ ∃ a, fields = form a ++ rest ∧ wrap a = b := by
  rw [Take.map_eq_some_iff]
  simp only [h _ _ _]

theorem finish_eq_ok_iff {op : Operator} {a : α} :
    finish op t fields = .ok a ↔ t fields = some (a, []) := by
  unfold finish
  split
  · rename_i b h
    rw [h, Except.ok.injEq, Option.some.injEq, Prod.mk.injEq, and_iff_left rfl]
  · rename_i h
    constructor
    · intro hok
      exact absurd hok (by simp only [reduceCtorEq, not_false_eq_true])
    · intro ha
      exact absurd ha (h a)

/-- There is one way to fail. -/
theorem finish_eq_error {op : Operator} (h : ∀ a, finish op t fields ≠ .ok a) :
    finish op t fields = .error (.mismatch op) := by
  unfold finish at h ⊢
  -- Whatever went wrong, too few arguments, too many or others, it has the same error.
  split
  · rename_i a ha
    simp only [ha] at h
    exact absurd rfl (h a)
  · rfl

end Take

/-- Arguments of the kinds that a trigger takes are those of a trigger, but for the items. -/
theorem FieldValue.exists_trigger {values : List FieldValue} {items : FieldKind}
    (h : values.map FieldValue.kind = [.combine, items, .order, .repeat]) :
    ∃ combine wrapped order repeats, wrapped.kind = items ∧
      values = [.combine combine, wrapped, .order order, .repeat repeats] := by
  -- There are four arguments, and the kind of each leaves one constructor for it.
  simp only [List.map_eq_cons_iff, List.map_eq_nil_iff] at h
  rcases h with ⟨v₁, -, rfl, h₁, v₂, -, rfl, h₂, v₃, -, rfl, h₃, v₄, -, rfl, h₄, rfl⟩
  cases v₁ with
  | combine combine =>
      cases v₃ with
      | order order =>
          cases v₄ with
          | «repeat» repeats => exact ⟨combine, v₂, order, repeats, h₂, rfl⟩
          | _ => nomatch h₄
      | _ => nomatch h₃
  | _ => nomatch h₁

namespace Condition

theorem kinds_fields (c : Condition) : c.fields.map FieldValue.kind = c.op.schema := by
  cases c <;> rfl

/-- What is taken for an operator is the positional form of one of its conditions. -/
theorem take_eq_some_iff {op : ConditionOp} {fields rest : List FieldValue} {c : Condition} :
    take op fields = some (c, rest) ↔ c.op = op ∧ fields = c.fields ++ rest := by
  have hids := Take.undoes_trigger Take.undoes_ids
  have hcells := Take.undoes_trigger Take.undoes_cells
  -- Operators with the same schema are taken in the same way, so they share a case.
  cases op with
  | shootObjs | kill | get | touch =>
      rw [take, hids.map_eq_some_iff]
      cases c <;> simp [Condition.op, Condition.fields]
  | shootWalls | enter =>
      rw [take, hcells.map_eq_some_iff]
      cases c <;> simp [Condition.op, Condition.fields]
  | timeElapsed =>
      rw [take, Take.undoes_millis.map_eq_some_iff]
      cases c <;> simp [Condition.op, Condition.fields]

/-- An operator and arguments amount to a condition exactly when these are its
    operator and its positional form. -/
theorem ofFields_eq_ok_iff {op : ConditionOp} {fields : List FieldValue} {c : Condition} :
    ofFields op fields = .ok c ↔ c.op = op ∧ c.fields = fields := by
  rw [ofFields, Take.finish_eq_ok_iff, take_eq_some_iff, List.append_nil, eq_comm (a := fields)]

theorem eq_of_fields {c c' : Condition} (hop : c.op = c'.op) (hfields : c.fields = c'.fields) :
    c = c' := by
  have hof : ofFields c'.op c'.fields = .ok c := ofFields_eq_ok_iff.mpr ⟨hop, hfields⟩
  rw [ofFields_eq_ok_iff.mpr ⟨rfl, rfl⟩] at hof
  exact (Except.ok.inj hof).symm

/-- Arguments that follow the schema of an operator amount to a condition. -/
theorem exists_ofFields {op : ConditionOp} {values : List FieldValue}
    (h : values.map FieldValue.kind = op.schema) : ∃ c, ofFields op values = .ok c := by
  -- The kind of an argument decides its constructor, and every other one is ruled out.
  cases op with
  | shootObjs | kill | get | touch =>
      rcases FieldValue.exists_trigger h with ⟨combine, wrapped, order, repeats, hkind, rfl⟩
      cases wrapped with
      | ids items => exact ⟨_, rfl⟩
      | _ => nomatch hkind
  | shootWalls | enter =>
      rcases FieldValue.exists_trigger h with ⟨combine, wrapped, order, repeats, hkind, rfl⟩
      cases wrapped with
      | cells items => exact ⟨_, rfl⟩
      | _ => nomatch hkind
  | timeElapsed =>
      rcases List.map_eq_singleton_iff.mp h with ⟨v, rfl, hkind⟩
      cases v with
      | millis ms => exact ⟨_, rfl⟩
      | _ => nomatch hkind

end Condition

namespace Action

theorem kinds_fields (a : Action) : a.fields.map FieldValue.kind = a.op.schema := by
  cases a <;> rfl

/-- What is taken for an operator is the positional form of one of its actions. -/
theorem take_eq_some_iff {op : ActionOp} {fields rest : List FieldValue} {a : Action} :
    take op fields = some (a, rest) ↔ a.op = op ∧ fields = a.fields ++ rest := by
  cases op with
  | «open» | close =>
      rw [take, Take.undoes_cells.map_eq_some_iff]
      cases a <;> simp [Action.op, Action.fields]
  | spawn =>
      rw [take, Take.undoes_spawns.map_eq_some_iff]
      cases a <;> simp [Action.op, Action.fields]
  | despawn =>
      rw [take, Take.undoes_ids.map_eq_some_iff]
      cases a <;> simp [Action.op, Action.fields]
  | dialog =>
      rw [take, Take.undoes_text.map_eq_some_iff]
      cases a <;> simp [Action.op, Action.fields]
  | warp =>
      -- Two arguments in sequence, so the steps are taken apart one by one.
      simp only [take, Take.bind_eq_some_iff, Take.pure_eq_some_iff, Take.undoes_mapIndex _ _ _,
        Take.undoes_cell _ _ _]
      constructor
      · rintro ⟨map, -, rfl, cell, -, rfl, rfl, rfl⟩
        exact ⟨rfl, rfl⟩
      · rintro ⟨hop, rfl⟩
        cases a with
        | warp map cell => exact ⟨map, _, rfl, cell, rest, rfl, rfl, rfl⟩
        | _ => nomatch hop
  | win =>
      -- Nothing is taken, and what is there is what is left.
      rw [take, Take.pure_eq_some_iff]
      constructor
      · rintro ⟨rfl, rfl⟩
        exact ⟨rfl, rfl⟩
      · rintro ⟨hop, rfl⟩
        cases a with
        | win => exact ⟨rfl, rfl⟩
        | _ => nomatch hop

/-- An operator and arguments amount to an action exactly when these are its
    operator and its positional form. -/
theorem ofFields_eq_ok_iff {op : ActionOp} {fields : List FieldValue} {a : Action} :
    ofFields op fields = .ok a ↔ a.op = op ∧ a.fields = fields := by
  rw [ofFields, Take.finish_eq_ok_iff, take_eq_some_iff, List.append_nil, eq_comm (a := fields)]

theorem eq_of_fields {a a' : Action} (hop : a.op = a'.op) (hfields : a.fields = a'.fields) :
    a = a' := by
  have hof : ofFields a'.op a'.fields = .ok a := ofFields_eq_ok_iff.mpr ⟨hop, hfields⟩
  rw [ofFields_eq_ok_iff.mpr ⟨rfl, rfl⟩] at hof
  exact (Except.ok.inj hof).symm

/-- Arguments that follow the schema of an operator amount to an action. -/
theorem exists_ofFields {op : ActionOp} {values : List FieldValue}
    (h : values.map FieldValue.kind = op.schema) : ∃ a, ofFields op values = .ok a := by
  -- The kind of an argument decides its constructor, and every other one is ruled out.
  cases op with
  | «open» | close =>
      rcases List.map_eq_singleton_iff.mp h with ⟨v, rfl, hkind⟩
      cases v with
      | cells items => exact ⟨_, rfl⟩
      | _ => nomatch hkind
  | spawn =>
      rcases List.map_eq_singleton_iff.mp h with ⟨v, rfl, hkind⟩
      cases v with
      | spawns items => exact ⟨_, rfl⟩
      | _ => nomatch hkind
  | despawn =>
      rcases List.map_eq_singleton_iff.mp h with ⟨v, rfl, hkind⟩
      cases v with
      | ids items => exact ⟨_, rfl⟩
      | _ => nomatch hkind
  | dialog =>
      rcases List.map_eq_singleton_iff.mp h with ⟨v, rfl, hkind⟩
      cases v with
      | text characters => exact ⟨_, rfl⟩
      | _ => nomatch hkind
  | warp =>
      simp only [ActionOp.schema, List.map_eq_cons_iff, List.map_eq_nil_iff] at h
      rcases h with ⟨v₁, -, rfl, h₁, v₂, -, rfl, h₂, rfl⟩
      cases v₁ with
      | mapIndex map =>
          cases v₂ with
          | cell cell => exact ⟨_, rfl⟩
          | _ => nomatch h₂
      | _ => nomatch h₁
  | win =>
      rw [List.map_eq_nil_iff.mp h]
      exact ⟨_, rfl⟩

end Action

end TileTriggers
