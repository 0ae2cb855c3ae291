import TileTriggers.Proofs.Payload.Delimited
import TileTriggers.Proofs.Script.ArgumentGrammar
import TileTriggers.Proofs.Script.Diagnosis

/-!
# The Tables of the Operators

What an operator takes is written down three times: as its schema, as the positional
form of what it makes, and as the order in which that is built from arguments. Each of
the three goes through all operators by itself. That they say the same is what keeps a
payload or a line from being read as another script than the one it was written for.

Arguments that do not fit an operator are an error with a name, but only for those who
put arguments together by hand. Both readers go by the schema of the operator that they
have just found, so what they have read fits. The rules that a script is held against at
the end do not ask for this, and cannot report it either.

## Main definitions

* `TablesAgree`: The three tables of one side of a script say the same.

## Theorems

* `Condition.tablesAgree`, `Action.tablesAgree`: The two sides.
* `Script.violation?_ne_mismatch`: No rule is about arguments that do not fit.
* `LineParts.failsOnly_compile`, `Script.failsOnly_decode`: Readers never read arguments
  that do not fit.
* `operator_tables_agree`: All of this together.
-/

namespace TileTriggers

open Fallible

/-- The tables of one side of a script say the same: which kinds of arguments an operator
    takes, which arguments make up a side, and what is built from an operator and
    arguments. -/
structure TablesAgree {Op Side : Type} (operator : Op → Operator) (schema : Op → List FieldKind)
    (op : Side → Op) (fields : Side → List FieldValue)
    (build : Op → List FieldValue → Except SchemaViolation Side) : Prop where
  /-- Something is built exactly from arguments of the kinds of the schema. -/
  builds_iff : ∀ o values,
    (∃ side, build o values = .ok side) ↔ values.map FieldValue.kind = schema o
  /-- What is built has the operator and the arguments that it was built from. -/
  eq_of_builds : ∀ o values side, build o values = .ok side → op side = o ∧ fields side = values
  /-- All other arguments are refused as unfit for the operator. -/
  refuses : ∀ o values, values.map FieldValue.kind ≠ schema o →
    build o values = .error (.mismatch (operator o))
  /-- Every side is built from its own operator and arguments. -/
  rebuilds : ∀ side, build (op side) (fields side) = .ok side

/-- Two of the tables agree by the kinds, and the third undoes the second. -/
theorem TablesAgree.of_iff {Op Side : Type} {operator : Op → Operator}
    {schema : Op → List FieldKind} {op : Side → Op} {fields : Side → List FieldValue}
    {build : Op → List FieldValue → Except SchemaViolation Side}
    (hkinds : ∀ side, (fields side).map FieldValue.kind = schema (op side))
    (hbuild : ∀ o values side, build o values = .ok side ↔ op side = o ∧ fields side = values)
    (hexists : ∀ o values, values.map FieldValue.kind = schema o →
      ∃ side, build o values = .ok side)
    (herror : ∀ o values, (∀ side, build o values ≠ .ok side) →
      build o values = .error (.mismatch (operator o))) :
    TablesAgree operator schema op fields build where
  builds_iff o values := by
    constructor
    · rintro ⟨side, hside⟩
      rcases (hbuild o values side).mp hside with ⟨rfl, rfl⟩
      exact hkinds side
    · exact hexists o values
  eq_of_builds o values side := (hbuild o values side).mp
  refuses o values hne := by
    -- Were something built, its arguments would follow the schema after all.
    refine herror o values fun side hside => hne ?_
    rcases (hbuild o values side).mp hside with ⟨rfl, rfl⟩
    exact hkinds side
  rebuilds side := (hbuild _ _ side).mpr ⟨rfl, rfl⟩

theorem Condition.tablesAgree :
    TablesAgree .condition ConditionOp.schema Condition.op Condition.fields Condition.ofFields :=
  .of_iff Condition.kinds_fields (fun _ _ _ => Condition.ofFields_eq_ok_iff)
    (fun _ _ => Condition.exists_ofFields) fun _ _ => Take.finish_eq_error

theorem Action.tablesAgree :
    TablesAgree .action ActionOp.schema Action.op Action.fields Action.ofFields :=
  .of_iff Action.kinds_fields (fun _ _ _ => Action.ofFields_eq_ok_iff)
    (fun _ _ => Action.exists_ofFields) fun _ _ => Take.finish_eq_error

/-! ## Rules -/

theorem listViolation?_ne_mismatch (field : FieldKind) (n : Nat) (op : Operator) :
    listViolation? field n ≠ some (.mismatch op) := by
  unfold listViolation?
  split_ifs <;> simp

/-- The rules of an argument are about that argument alone. -/
theorem FieldValue.violation?_ne_mismatch (v : FieldValue) (op : Operator) :
    v.violation? ≠ some (.mismatch op) := by
  -- Only lists and texts have rules, and each reports a fault of its own sort.
  cases v with
  | ids values => exact listViolation?_ne_mismatch _ _ _
  | cells values => exact listViolation?_ne_mismatch _ _ _
  | spawns values =>
      rw [violation?, ne_eq, Option.or_eq_some_iff]
      rintro (hlist | ⟨-, hspawn⟩)
      · exact listViolation?_ne_mismatch _ _ _ hlist
      · rw [Option.map_eq_some_iff] at hspawn
        rcases hspawn with ⟨s, -, hs⟩
        nomatch hs
  | text value =>
      rw [violation?, ne_eq, Option.map_eq_some_iff]
      rintro ⟨fault, -, hfault⟩
      nomatch hfault
  | combine | order | «repeat» | millis | mapIndex | cell => exact nofun

theorem Script.violation?_ne_mismatch (s : Script) (op : Operator) :
    s.violation? ≠ some (.mismatch op) := by
  intro h
  rcases List.exists_of_findSome?_eq_some h with ⟨v, -, hv⟩
  exact v.violation?_ne_mismatch op hv

/-! ## Readers -/

/-- An error of a line that does not say that the arguments do not fit the operator. -/
def ScriptError.Fitting (e : ScriptError) : Prop :=
  ∀ op, e ≠ .invalid (.mismatch op)

/-- The same of an error of a payload. -/
def FormatError.Fitting (e : FormatError) : Prop :=
  ∀ op, e ≠ .invalid (.mismatch op)

/-- The arguments of an operator that were read are of the kinds of its schema. -/
theorem kinds_of_readFields {op : Operator} {args : String} {values : List FieldValue}
    (h : readFields op args = .ok values) : values.map FieldValue.kind = op.schema := by
  rcases readFields_eq_ok_iff.mp h with ⟨inner, -, hspells⟩
  exact kinds_of_spellsArguments hspells

theorem failsOnly_fitting_readFields (op : Operator) (args : String) :
    FailsOnly ScriptError.Fitting (readFields op args) := by
  refine (failsOnly_readFields op args).mono fun e he o hinvalid => ?_
  rw [hinvalid] at he
  rcases he with he | ⟨he, -⟩
  · exact he
  · nomatch he

/-- What is built from arguments of the right kinds is built without an error. -/
theorem TablesAgree.failsOnly_orInvalid {Op Side : Type} {operator : Op → Operator}
    {schema : Op → List FieldKind} {op : Side → Op} {fields : Side → List FieldValue}
    {build : Op → List FieldValue → Except SchemaViolation Side}
    (h : TablesAgree operator schema op fields build) {o : Op} {values : List FieldValue}
    (hkinds : values.map FieldValue.kind = schema o) :
    FailsOnly ScriptError.Fitting (orInvalid (build o values)) := by
  rcases (h.builds_iff o values).mpr hkinds with ⟨side, hside⟩
  rw [hside]
  exact failsOnly_ok side

theorem LineParts.failsOnly_compile (parts : LineParts) :
    FailsOnly ScriptError.Fitting parts.compile := by
  -- An unknown word is an error of its own, and each step is followed by the next.
  have hcondition : (ScriptError.unknownCondition parts.condition).Fitting := nofun
  have haction : (ScriptError.unknownAction parts.action).Fitting := nofun
  refine (failsOnly_orError hcondition _).bind fun conditionOp => ?_
  refine (failsOnly_orError haction _).bind fun actionOp => ?_
  -- Each side is built from what was read along the schema of its operator.
  refine (failsOnly_fitting_readFields _ _).bind_of_ok fun conditionFields hread => ?_
  refine (Condition.tablesAgree.failsOnly_orInvalid (kinds_of_readFields hread)).bind
    fun condition => ?_
  refine (failsOnly_fitting_readFields _ _).bind_of_ok fun actionFields hread => ?_
  refine (Action.tablesAgree.failsOnly_orInvalid (kinds_of_readFields hread)).bind
    fun action => ?_
  simp only
  split
  · rename_i violation hviolation
    refine failsOnly_error fun op hop => ?_
    rw [ScriptError.invalid.inj hop] at hviolation
    exact Script.violation?_ne_mismatch _ op hviolation
  · exact failsOnly_ok _

theorem Script.failsOnly_decode (data : List UInt8) :
    FailsOnly FormatError.Fitting (Script.decode data) := by
  cases hread : Read.script (.start data) with
  | error e =>
      -- An error in reading is about a place in the data, and not about a script.
      rw [decode_of_error hread]
      refine failsOnly_error fun op hop => ?_
      rw [hop] at hread
      rcases Read.sequential_script.error data _ _ (Cursor.within_start data) hread with
        ⟨offset, -, hoffset⟩ | ⟨hwrong, -⟩
      · nomatch hoffset
      · exact hwrong
  | ok p =>
      rcases p with ⟨s, c⟩
      rw [decode_of_script hread]
      -- A script was read, so only the rules or bytes behind it can be the error.
      split_ifs
      · split
        · rename_i violation hviolation
          refine failsOnly_error fun op hop => ?_
          rw [FormatError.invalid.inj hop] at hviolation
          exact s.violation?_ne_mismatch op hviolation
        · exact failsOnly_ok s
      · exact failsOnly_error nofun

/-- For every operator the schema, the positional form and the building agree. From
    arguments of the kinds of the schema, and only from these, exactly that side of a
    script is built which has this operator and these arguments. All other arguments are
    refused as unfit for the operator, however many they are. Every condition and every
    action is built again from its own operator and arguments. So neither a line nor a
    payload is ever reported for arguments that do not fit. -/
theorem operator_tables_agree :
    TablesAgree .condition ConditionOp.schema Condition.op Condition.fields Condition.ofFields ∧
      TablesAgree .action ActionOp.schema Action.op Action.fields Action.ofFields ∧
      (∀ (parts : LineParts) (op : Operator),
        parts.compile ≠ .error (.invalid (.mismatch op))) ∧
      ∀ (data : List UInt8) (op : Operator),
        Script.decode data ≠ .error (.invalid (.mismatch op)) :=
  ⟨Condition.tablesAgree, Action.tablesAgree,
    fun parts op h => parts.failsOnly_compile _ h op rfl,
    fun data op h => Script.failsOnly_decode data _ h op rfl⟩

/-- Arguments can be too few, too many or in another order. -/
example :
    Action.ofFields .warp [.mapIndex 1] = .error (.mismatch (.action .warp)) ∧
      Action.ofFields .warp [.mapIndex 1, .cell ⟨2, 3⟩, .cell ⟨2, 3⟩] =
        .error (.mismatch (.action .warp)) ∧
      Action.ofFields .warp [.cell ⟨2, 3⟩, .mapIndex 1] = .error (.mismatch (.action .warp)) := by
  decide

end TileTriggers
