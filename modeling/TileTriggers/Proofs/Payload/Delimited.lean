import TileTriggers.Proofs.Payload.Correspondence
import TileTriggers.Proofs.Payload.Sequential

/-!
# Payloads Delimit Themselves

The bytes of a script tell where they end. Data that holds a script and nothing more
cannot be lengthened or shortened into other data that does: with more behind it there
are trailing bytes, and with less the data ends too early. This holds of a script that
breaks a rule as well, since the rules are asked for when everything has been read.

All readers of the parts are sequential, and so is the reader of a script. What is left
is to see that its errors are the ones about places in the data and no others. A byte
that is unknown is the byte at the offset that the error names. That the arguments do
not go with their operator is an error which the reader can name, but never meets,
because it reads the arguments along the schema of the operator.

## Main definitions

* `FormatError.Short`, `FormatError.Wrong`: What the two sorts of errors say about data.

## Theorems

* `sequential_field`, `sequential_fields`: The readers of arguments.
* `sequential_script`: The reader of a script.
* `Script.decode_of_script`: What the rest of the data makes of a script that was read.
* `Script.decode_append`: What more data, or less, makes of a payload.
-/

namespace TileTriggers

/-- The data ends before all was read. The error tells a place in the data, or its end. -/
def FormatError.Short (data : List UInt8) (e : FormatError) : Prop :=
  ∃ offset ≤ data.length, e = .unexpectedEnd offset

/-- Something in the data is not known. An error about a byte names that byte and where
    in the data it is. -/
def FormatError.Wrong (data : List UInt8) : FormatError → Prop
  | .unknownOperator value offset => data[offset]? = some value
  | .unknownKeyword _ value offset => data[offset]? = some value
  | .unknownTileType value offset => data[offset]? = some value
  | .invalidText _ => True
  | .unexpectedEnd _ | .trailingBytes _ | .invalid _ => False

namespace Read

open FormatError (Short Wrong)

theorem short_unexpectedEnd (data : List UInt8) (offset : Nat) (h : offset ≤ data.length) :
    Short data (.unexpectedEnd offset) :=
  ⟨offset, h, rfl⟩

theorem short_unexpectedEnd_length (data : List UInt8) :
    Short data (.unexpectedEnd data.length) :=
  ⟨data.length, Nat.le_refl _, rfl⟩

theorem sequential_keyword {α : Type} [Vocabulary α] [Vocabulary.Faithful α] (kind : FieldKind) :
    Sequential Short Wrong (keyword kind : Read FormatError α) :=
  sequential_lookup short_unexpectedEnd_length fun _ _ _ h => h

theorem sequential_tileType : Sequential Short Wrong tileType :=
  sequential_lookup short_unexpectedEnd_length fun _ _ _ h => h

theorem sequential_cell : Sequential Short Wrong cell :=
  (sequential_byte short_unexpectedEnd_length).bind fun _ x _ _ =>
    (sequential_byte short_unexpectedEnd_length).bind fun _ y _ _ => sequential_pure (Cell.mk x y)

theorem sequential_spawn : Sequential Short Wrong spawn :=
  sequential_tileType.bind fun _ kind _ _ =>
    (sequential_byte short_unexpectedEnd_length).bind fun _ id _ _ =>
      sequential_cell.bind fun _ place _ _ => sequential_pure (Spawn.mk kind id place)

theorem sequential_list {α : Type} {element : Read FormatError α}
    (h : Sequential Short Wrong element) : Sequential Short Wrong (list element) :=
  (sequential_byte short_unexpectedEnd_length).bind fun _ count _ _ =>
    sequential_times h count.toNat

theorem sequential_text : Sequential Short Wrong text := by
  refine (sequential_number short_unexpectedEnd 2).bind fun _ length _ _ => ?_
  refine sequential_position.bind fun _ offset _ _ => ?_
  refine (sequential_bytes short_unexpectedEnd length).bind fun _ characters _ _ => ?_
  -- Whether the characters are ASCII is looked at when all of them are there.
  split_ifs with hascii
  · exact sequential_pure _
  · exact sequential_fail fun _ => trivial

theorem sequential_field (kind : FieldKind) : Sequential Short Wrong (field kind) := by
  cases kind with
  | combine => exact (sequential_keyword .combine).map _
  | idList => exact (sequential_list (sequential_byte short_unexpectedEnd_length)).map _
  | cellList => exact (sequential_list sequential_cell).map _
  | spawnList => exact (sequential_list sequential_spawn).map _
  | order => exact (sequential_keyword .order).map _
  | «repeat» => exact (sequential_keyword .repeat).map _
  | millis => exact (sequential_number short_unexpectedEnd 4).map _
  | mapIndex => exact (sequential_byte short_unexpectedEnd_length).map _
  | cell => exact sequential_cell.map _
  | text => exact sequential_text.map _

theorem sequential_fields (kinds : List FieldKind) : Sequential Short Wrong (fields kinds) := by
  induction kinds with
  | nil => exact sequential_pure []
  | cons kind kinds ih =>
      refine (sequential_field kind).bind fun _ value _ _ => ?_
      exact ih.bind fun _ values _ _ => sequential_pure (value :: values)

/-- One side of a script. Its arguments are those of the schema, so they amount to
    something, and no error about the script as a whole can come from here. -/
theorem sequential_side {Op Side : Type} [Vocabulary Op] [Vocabulary.Faithful Op]
    {schema : Op → List FieldKind} {build : Op → List FieldValue → Except SchemaViolation Side}
    (hbuild : ∀ op values, values.map FieldValue.kind = schema op →
      ∃ built, build op values = .ok built) : Sequential Short Wrong (side schema build) := by
  have hoperator : Sequential Short Wrong
      (lookup .unknownOperator Vocabulary.ofByte? : Read FormatError Op) :=
    sequential_lookup short_unexpectedEnd_length fun _ _ _ h => h
  refine hoperator.bind fun _ op _ _ => ?_
  refine (sequential_fields (schema op)).bind fun c values c' hread => ?_
  -- The reader of arguments goes by the schema, so `build` finds the kinds that it expects.
  have hkinds : values.map FieldValue.kind = schema op :=
    ((inverts_fields (schema op) c values c').mp hread).1.1
  rcases hbuild op values hkinds with ⟨built, hbuilt⟩
  rw [hbuilt]
  exact sequential_pure built

theorem sequential_script : Sequential Short Wrong script :=
  (sequential_side fun _ _ => Condition.exists_ofFields).bind fun _ condition _ _ =>
    (sequential_side fun _ _ => Action.exists_ofFields).bind fun _ action _ _ =>
      sequential_pure (Script.mk condition action)

end Read

namespace Script

/-- An error in reading a script is the error of the payload. -/
theorem decode_of_error {data : List UInt8} {e : FormatError}
    (h : Read.script (.start data) = .error e) : decode data = .error e := by
  rw [decode, h]
  rfl

/-- When a script was read, the rest of the data decides first and the rules second. -/
theorem decode_of_script {data : List UInt8} {s : Script} {c : Cursor}
    (h : Read.script (.start data) = .ok (s, c)) :
    decode data = if c.unread = [] then
        (match s.violation? with
          | some violation => .error (.invalid violation)
          | none => .ok s)
      else .error (.trailingBytes c.unread.length) := by
  rw [decode, h]
  -- Only with nothing left behind it the script is looked at.
  by_cases hend : c.unread = []
  · have hatEnd : c.atEnd = true := List.isEmpty_iff.mpr hend
    rw [if_pos hend]
    change (if c.atEnd = true then _ else _) = _
    rw [if_pos hatEnd]
    cases s.violation? <;> rfl
  · have hatEnd : ¬ c.atEnd = true := fun hempty => hend (List.isEmpty_iff.mp hempty)
    rw [if_neg hend]
    change (if c.atEnd = true then _ else _) = _
    rw [if_neg hatEnd]
    rfl

/-- When a script was read, more data is too much. -/
theorem decode_append_of_script {data extra : List UInt8} {s : Script} {c : Cursor}
    (hne : extra ≠ []) (h : Read.script (.start data) = .ok (s, c)) :
    decode (data ++ extra) = .error (.trailingBytes (c.unread.length + extra.length)) := by
  have hlonger : Read.script (.start (data ++ extra)) = .ok (s, c.extend extra) :=
    (Read.sequential_script.ok data _ s c (Cursor.within_start data) h).2 extra
  -- Whatever was left before, with more data something is left.
  have hrest : c.unread ++ extra ≠ [] := fun hnil => hne (List.append_eq_nil_iff.mp hnil).2
  rw [decode_of_script hlonger, Cursor.unread_extend, if_neg hrest, List.length_append]

/-- When a script was read and nothing is left, less data is too little. -/
theorem decode_take_of_script {data : List UInt8} {s : Script} {c : Cursor} {k : Nat}
    (hk : k < data.length) (h : Read.script (.start data) = .ok (s, c)) (hend : c.unread = []) :
    ∃ offset, decode (data.take k) = .error (.unexpectedEnd offset) := by
  have hrest : data.drop k ≠ [] := by
    intro hnil
    have hle := List.drop_eq_nil_iff.mp hnil
    omega
  -- All of the data was needed, so the reader runs out on the part that is left of it.
  rw [← List.take_append_drop k data] at h
  rcases Read.sequential_script.exists_error_of_append hrest h hend with ⟨e, herror, offset, -, rfl⟩
  exact ⟨offset, decode_of_error herror⟩

/-- What becomes of a payload when more data follows it. Where a script ends is told by
    its own bytes, so with a script, valid or not, any more is too much and any less too
    little. An error about something in the data stays the same error, and the byte that
    it names is at the offset that it names. Only of data that ends too early nothing is
    known, except that the place where it ends is told. -/
theorem decode_append (data : List UInt8) {extra : List UInt8} (hne : extra ≠ []) :
    match decode data with
    | .ok _ | .error (.invalid _) =>
      decode (data ++ extra) = .error (.trailingBytes extra.length) ∧
        ∀ k < data.length, ∃ offset, decode (data.take k) = .error (.unexpectedEnd offset)
    | .error (.trailingBytes count) =>
      decode (data ++ extra) = .error (.trailingBytes (count + extra.length))
    | .error (.unknownOperator value offset) =>
      decode (data ++ extra) = .error (.unknownOperator value offset) ∧ data[offset]? = some value
    | .error (.unknownKeyword field value offset) =>
      decode (data ++ extra) = .error (.unknownKeyword field value offset) ∧
        data[offset]? = some value
    | .error (.unknownTileType value offset) =>
      decode (data ++ extra) = .error (.unknownTileType value offset) ∧ data[offset]? = some value
    | .error (.invalidText offset) => decode (data ++ extra) = .error (.invalidText offset)
    | .error (.unexpectedEnd offset) => offset ≤ data.length := by
  -- The reader of scripts either fails, and so does the payload, or it stands behind a script.
  cases hread : Read.script (.start data) with
  | error e =>
      rw [decode_of_error hread]
      rcases Read.sequential_script.error data _ e (Cursor.within_start data) hread with
        ⟨offset, hle, rfl⟩ | ⟨hwrong, hsame⟩
      · -- Too little of the data was there, so only the place is known.
        exact hle
      · -- The same error is met in the longer data, and it is about the same byte.
        have hlonger : decode (data ++ extra) = .error e := decode_of_error (hsame extra)
        cases e with
        | unknownOperator value offset => exact ⟨hlonger, hwrong⟩
        | unknownKeyword field value offset => exact ⟨hlonger, hwrong⟩
        | unknownTileType value offset => exact ⟨hlonger, hwrong⟩
        | invalidText offset => exact hlonger
        | unexpectedEnd offset => exact hwrong.elim
        | trailingBytes count => exact hwrong.elim
        | invalid violation => exact hwrong.elim
  | ok p =>
      rcases p with ⟨s, c⟩
      have hmore := decode_append_of_script hne hread
      rw [decode_of_script hread]
      by_cases hend : c.unread = []
      · have hless := fun k (hk : k < data.length) => decode_take_of_script hk hread hend
        rw [hend, List.length_nil, Nat.zero_add] at hmore
        rw [if_pos hend]
        -- Whether a rule is broken makes no difference here.
        cases s.violation? with
        | none => exact ⟨hmore, hless⟩
        | some violation => exact ⟨hmore, hless⟩
      · rw [if_neg hend]
        exact hmore

/-- The payload of a script that breaks a rule, since its list of ids is empty. With
    another byte it has a trailing byte, and without its last byte it ends too early. -/
theorem decode_append_empty_list :
    decode [6, 0, 0, 0, 5, 10, 0] = .error (.invalid (.emptyList .idList)) ∧
    decode ([6, 0, 0, 0, 5, 10, 0] ++ [0]) = .error (.trailingBytes 1) ∧
    ∃ offset, decode [6, 0, 0, 0, 5, 10] = .error (.unexpectedEnd offset) := by
  have hdecode : decode [6, 0, 0, 0, 5, 10, 0] = .error (.invalid (.emptyList .idList)) := rfl
  have happend := decode_append [6, 0, 0, 0, 5, 10, 0] (List.cons_ne_nil 0 [])
  rw [hdecode] at happend
  exact ⟨hdecode, happend.1, happend.2 6 (by decide)⟩

end Script

end TileTriggers
