import TileTriggers.Proofs.Payload.Correspondence
import Mathlib.Algebra.Order.BigOperators.Group.List

/-!
# How Long a Payload Can Be

Every list in a script is counted by a byte, so the schema of an operator sets a bound
to the length of its arguments. The bound is far below what a slot of a map file can
hold. A dialog text is counted by two bytes and can be nearly as long as a slot, or a
little too long for one together with what stands in front of it. So a script that is
too long for a slot is a dialog, and the text alone is to blame.

## Main definitions

* `FieldKind.maxSize`: The most bytes that an argument of some kind can have.

## Theorems

* `length_sideBytes`: An operator is a byte and its arguments follow.
* `FieldValue.length_bytes_le`: An argument that fits is within the bound of its kind.
* `length_bytes_text`: The length of a dialog text with its count.
* `Script.length_condition_le`, `Script.length_action_le`: Everything but a dialog is short.
* `Script.length_bytes_dialog`: The length of a dialog script.
-/

namespace TileTriggers

/-- The most bytes that an argument of some kind can have. Lists are of up to 255 elements
    behind the byte that counts them, and a text has two bytes in front of it. -/
def FieldKind.maxSize : FieldKind → Nat
  | .combine | .order | .repeat | .mapIndex => 1
  | .idList => 1 + maxListLength
  | .cellList => 1 + 2 * maxListLength
  | .spawnList => 1 + 4 * maxListLength
  | .millis => 4
  | .cell => 2
  | .text => 2 + maxTextLength

theorem length_sideBytes {Op : Type} [Vocabulary Op] (op : Op) (fields : List FieldValue) :
    (sideBytes op fields).length = 1 + (fields.map fun v => v.bytes.length).sum := by
  rw [sideBytes, List.length_cons, List.length_flatMap, Nat.add_comm]

/-- A list of elements that all have the same length. -/
theorem length_flatMap_of_forall {α β : Type} {f : α → List β} {n : Nat}
    (h : ∀ a, (f a).length = n) (as : List α) : (as.flatMap f).length = n * as.length := by
  rw [List.length_flatMap, List.map_congr_left fun a _ => h a, List.map_const', List.sum_replicate,
    nsmul_eq_mul, Nat.cast_id, Nat.mul_comm]

theorem length_bytes_text {text : String} (h : text.utf8ByteSize ≤ maxTextLength) :
    (FieldValue.text text).bytes.length = 2 + text.utf8ByteSize := by
  have hencode : (FieldValue.text text).encode = _ := encodeText_of_size_le h
  rw [FieldValue.bytes_of_encode hencode, List.length_append, length_bigEndian,
    ← Text.utf8ByteSize_eq]

/-- An argument that fits has no more bytes than its kind can have. -/
theorem FieldValue.length_bytes_le {v : FieldValue} (h : v.Fits) :
    v.bytes.length ≤ v.kind.maxSize := by
  -- The three kinds of lists differ in the length of an element only.
  have hlist : ∀ {α : Type} {field : FieldKind} {encode : α → List UInt8} {values : List α}
      {n : Nat}, v.encode = counted field encode values → (∀ a, (encode a).length = n) →
      values.length ≤ maxListLength → v.bytes.length ≤ 1 + n * maxListLength := by
    intro α field encode values n hencode hsize hcount
    have hbytes := bytes_of_encode (hencode.trans (counted_of_length_le hcount))
    have hmul := Nat.mul_le_mul_left n hcount
    rw [hbytes, List.length_cons, length_flatMap_of_forall hsize]
    omega
  cases v with
  | ids values =>
      have hle := hlist rfl (fun _ => List.length_singleton) h
      rw [Nat.one_mul] at hle
      exact hle
  | cells values => exact hlist rfl (fun _ => rfl) h
  | spawns values => exact hlist rfl (fun _ => rfl) h
  | text value =>
      rw [length_bytes_text h.1]
      exact Nat.add_le_add_left h.1 2
  | millis value => exact Nat.le_of_eq (length_bigEndian 4 value.toNat)
  | combine | order | «repeat» | mapIndex => exact Nat.le_refl 1
  | cell => exact Nat.le_refl 2

/-- An operator with arguments that fit has no more bytes than its schema allows. -/
theorem length_sideBytes_le {Op : Type} [Vocabulary Op] (op : Op) {fields : List FieldValue}
    {schema : List FieldKind} (hkinds : fields.map FieldValue.kind = schema)
    (h : ∀ v ∈ fields, v.Fits) :
    (sideBytes op fields).length ≤ 1 + (schema.map FieldKind.maxSize).sum := by
  rw [length_sideBytes, ← hkinds, List.map_map]
  exact Nat.add_le_add_left
    (List.sum_le_sum fun v hv => FieldValue.length_bytes_le (h v hv)) 1

namespace Script

variable {s : Script}

theorem length_condition_le (h : s.Valid) :
    (sideBytes s.condition.op s.condition.fields).length ≤ 515 := by
  have hfits := (List.forall_mem_append.mp (fits_of_valid h)).1
  refine (length_sideBytes_le _ s.condition.kinds_fields hfits).trans ?_
  cases s.condition.op <;> decide

/-- An action that is no dialog is short. -/
theorem length_action_le (h : s.Valid) (hop : s.action.op ≠ .dialog) :
    (sideBytes s.action.op s.action.fields).length ≤ 1022 := by
  have hfits := (List.forall_mem_append.mp (fits_of_valid h)).2
  refine (length_sideBytes_le _ s.action.kinds_fields hfits).trans ?_
  revert hop
  cases s.action.op <;> decide

/-- In front of a dialog text there are the condition and three bytes: one of the operator
    and two of the length of the text. -/
theorem length_bytes_dialog {text : String} (h : s.Valid) (haction : s.action = .dialog text) :
    s.bytes.length =
      (sideBytes s.condition.op s.condition.fields).length + 3 + text.utf8ByteSize := by
  have hfits := (List.forall_mem_append.mp (fits_of_valid h)).2
  rw [haction] at hfits
  have htext : text.utf8ByteSize ≤ maxTextLength := (hfits _ List.mem_cons_self).1
  -- The text is the only argument, so the length of this side is known exactly.
  have hside := length_sideBytes ActionOp.dialog [.text text]
  rw [List.map_singleton, List.sum_singleton, length_bytes_text htext] at hside
  rw [bytes, List.length_append, haction]
  simp only [Action.op, Action.fields, hside]
  omega

/-- A payload is longer than a slot can hold exactly when it is a dialog with a text that
    is longer than what the condition leaves of the slot. -/
theorem lt_length_bytes_iff {limit : Nat} (h : s.Valid) (hlimit : 1537 ≤ limit) :
    limit < s.bytes.length ↔ ∃ text, s.action = .dialog text ∧
      limit - 3 - (sideBytes s.condition.op s.condition.fields).length < text.utf8ByteSize := by
  have hcondition := length_condition_le h
  constructor
  · intro hlong
    -- Only a dialog can be long, so its text is what the length depends on.
    by_cases hop : s.action.op = .dialog
    · cases haction : s.action with
      | dialog text =>
          rw [length_bytes_dialog h haction] at hlong
          exact ⟨text, rfl, by omega⟩
      | _ =>
          rw [haction] at hop
          nomatch hop
    · -- Neither side reaches the limit, and the two together do not either.
      have haction := length_action_le h hop
      rw [bytes, List.length_append] at hlong
      omega
  · rintro ⟨text, haction, htext⟩
    rw [length_bytes_dialog h haction]
    omega

end Script

end TileTriggers
