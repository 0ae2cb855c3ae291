import TileTriggers.Payload.Script
import TileTriggers.Proofs.Fallible
import TileTriggers.Proofs.Payload.Field
import TileTriggers.Proofs.Schema

/-!
# Scripts and Their Payloads

Writing and reading payloads are inverse to each other, without remainder on
either side: a sequence of bytes is read as a script exactly when that script is
written as these bytes. So a valid script has one payload, an invalid one has
none, and the bytes that are read at all are those that writing produces.

The argument has two parts. As far as the bytes go, every script whose arguments
fit is written and read back, whether or not it breaks a rule; this is
`inverts_script`, put together from the readers of the parts. The rules then cut
both sides down to the same scripts: the writer asks for them first and the
reader last.

## Main definitions

* `Script.bytes`: The bytes of a script whose arguments fit.

## Theorems

* `inverts_side`: An operator and its arguments are read back together.
* `inverts_script`: A script is read back, valid or not.
* `Script.encode_of_valid`: A valid script is written without a count being refused.
* `Script.decode_eq_ok_iff`: What the bytes that are read as a script are.
* `Script.payload_correspondence`: Reading and writing are inverse to each other.
-/

namespace TileTriggers

/-- The bytes of an operator and its arguments. -/
def sideBytes {Op : Type} [Vocabulary Op] (op : Op) (fields : List FieldValue) : List UInt8 :=
  Vocabulary.byte op :: fields.flatMap FieldValue.bytes

/-- The bytes of a script whose arguments fit. -/
def Script.bytes (s : Script) : List UInt8 :=
  sideBytes s.condition.op s.condition.fields ++ sideBytes s.action.op s.action.fields

namespace Read

/-- An operator and its arguments are read back together. The two sides of a script
    differ in their operators and in how a value is built from its arguments. -/
theorem inverts_side {Op Side : Type} [Vocabulary Op] [Vocabulary.Faithful Op]
    {schema : Op → List FieldKind} {build : Op → List FieldValue → Except SchemaViolation Side}
    (op : Side → Op) (fieldsOf : Side → List FieldValue)
    (hkinds : ∀ side, (fieldsOf side).map FieldValue.kind = schema (op side))
    (hbuild : ∀ o vs side, build o vs = .ok side ↔ op side = o ∧ fieldsOf side = vs) :
    Inverts (side schema build) (fun side => sideBytes (op side) (fieldsOf side))
      (fun side => ∀ v ∈ fieldsOf side, v.Fits) := by
  refine inverts_bind (fun _ side => (fieldsOf side).flatMap FieldValue.bytes)
    (fun o side => op side = o ∧ ∀ v ∈ fieldsOf side, v.Fits)
    (inverts_lookup _) (fun o _ => ?_) ?_ fun side => ?_
  · refine inverts_bind (fun _ _ => [])
      (fun vs side => op side = o ∧ fieldsOf side = vs) (inverts_fields (schema o))
      (fun vs _ => ?_) ?_ fun side => ?_
    · -- Building a side consumes nothing and tells what the arguments were.
      cases hb : build o vs with
      | ok built =>
          refine inverts_pure (fun side => ?_) rfl
          rw [← hbuild, hb, Except.ok.injEq]
      | error violation =>
          refine inverts_fail fun side => ?_
          rw [← hbuild, hb]
          simp only [reduceCtorEq, not_false_eq_true]
    · rintro vs side - ⟨-, rfl⟩
      exact (List.append_nil _).symm
    · constructor
      · rintro ⟨rfl, hfits⟩
        exact ⟨fieldsOf side, ⟨hkinds side, hfits⟩, rfl, rfl⟩
      · rintro ⟨vs, ⟨-, hfits⟩, hop, rfl⟩
        exact ⟨hop, hfits⟩
  · -- The operator is the first byte, and the arguments are all that is behind it.
    rintro o side - ⟨rfl, -⟩
    rfl
  · exact ⟨fun hfits => ⟨op side, trivial, rfl, hfits⟩, fun ⟨_, _, _, hfits⟩ => hfits⟩

theorem inverts_condition :
    Inverts condition (fun c => sideBytes c.op c.fields) (fun c => ∀ v ∈ c.fields, v.Fits) :=
  inverts_side Condition.op Condition.fields Condition.kinds_fields
    fun _ _ _ => Condition.ofFields_eq_ok_iff

theorem inverts_action :
    Inverts action (fun a => sideBytes a.op a.fields) (fun a => ∀ v ∈ a.fields, v.Fits) :=
  inverts_side Action.op Action.fields Action.kinds_fields
    fun _ _ _ => Action.ofFields_eq_ok_iff

/-- A script is read back from its bytes whether or not it breaks a rule, as long as
    its arguments fit. -/
theorem inverts_script : Inverts script Script.bytes (fun s => ∀ v ∈ s.fields, v.Fits) := by
  refine inverts_map₂ inverts_condition inverts_action (fun c a _ _ => rfl) fun s => ?_
  simp only [Script.fields, List.forall_mem_append]
  constructor
  · rintro ⟨hc, ha⟩
    exact ⟨s.condition, s.action, hc, ha, rfl⟩
  · rintro ⟨c, a, hc, ha, rfl⟩
    exact ⟨hc, ha⟩

end Read

namespace Script

theorem fits_of_valid {s : Script} (h : s.Valid) : ∀ v ∈ s.fields, v.Fits := by
  intro v hv
  exact FieldValue.fits_of_violation? (List.findSome?_eq_none_iff.mp h v hv)

/-- A valid script is written, and no count in front of its lists or of its text is
    refused on the way. -/
theorem encode_of_valid {s : Script} (h : s.Valid) : s.encode = .ok s.bytes := by
  have hfits := fits_of_valid h
  rw [Script.fields, List.forall_mem_append] at hfits
  unfold Script.Valid at h
  rw [Script.encode, h, FieldValue.mapM_encode_of_fits hfits.1,
    FieldValue.mapM_encode_of_fits hfits.2]
  rfl

theorem encode_of_violation? {s : Script} {violation : SchemaViolation}
    (h : s.violation? = some violation) : s.encode = .error violation := by
  rw [Script.encode, h]
  rfl

theorem encode_eq_ok_iff {s : Script} {bytes : List UInt8} :
    s.encode = .ok bytes ↔ s.Valid ∧ bytes = s.bytes := by
  cases h : s.violation? with
  | none =>
      rw [encode_of_valid h, Except.ok.injEq, eq_comm]
      exact ⟨fun hb => ⟨h, hb⟩, And.right⟩
  | some violation =>
      rw [encode_of_violation? h, Script.Valid, h]
      simp only [reduceCtorEq, false_and]

/-- Bytes are read as a script exactly when they are the bytes of this script and it
    is valid. -/
theorem decode_eq_ok_iff {data : List UInt8} {s : Script} :
    Script.decode data = .ok s ↔ s.Valid ∧ data = s.bytes := by
  unfold Script.decode
  rw [Fallible.bind_eq_ok]
  constructor
  · rintro ⟨⟨read, c⟩, hread, hrest⟩
    -- All data was read, so it is the bytes of the script and nothing more.
    rcases (Read.inverts_script _ _ _).mp hread with ⟨-, hunread, -⟩
    simp only at hrest
    split_ifs at hrest with hend
    split at hrest
    · exact absurd hrest (by simp only [reduceCtorEq, not_false_eq_true])
    · rename_i hvalid
      rw [← Except.ok.inj hrest]
      refine ⟨hvalid, ?_⟩
      rw [List.isEmpty_iff.mp hend, List.append_nil] at hunread
      exact hunread
  · rintro ⟨hvalid, rfl⟩
    -- The bytes are read with nothing left behind, and then no rule is broken.
    refine ⟨(s, ⟨s.bytes.length, []⟩), ?_, ?_⟩
    · refine (Read.inverts_script _ _ _).mpr ⟨fits_of_valid hvalid, ?_, ?_⟩
      · rw [List.append_nil]
        rfl
      · rw [Cursor.start, Nat.zero_add]
    · unfold Script.Valid at hvalid
      simp only [Cursor.atEnd, List.isEmpty_nil, if_true, hvalid]
      rfl

/-- Reading and writing payloads are inverse to each other. Bytes are read as a script
    exactly when it is written as these bytes, writing fails exactly where a rule is
    broken and reports that rule, and the writer of an argument refuses none of a
    script without a broken rule. So no script has two payloads and no payload
    belongs to two scripts. -/
theorem payload_correspondence :
    (∀ (data : List UInt8) (s : Script), Script.decode data = .ok s ↔ s.encode = .ok data) ∧
    (∀ (s : Script) (violation : SchemaViolation),
      s.encode = .error violation ↔ s.violation? = some violation) ∧
    (∀ (s : Script), s.Valid → ∀ v ∈ s.fields, ∃ data, v.encode = .ok data) ∧
    (∀ (s : Script) (data data' : List UInt8),
      Script.decode data = .ok s → Script.decode data' = .ok s → data = data') ∧
    (∀ (s s' : Script) (data : List UInt8),
      s.encode = .ok data → s'.encode = .ok data → s = s') := by
  refine ⟨fun data s => ?_, fun s violation => ?_, fun s h v hv => ?_, ?_, ?_⟩
  · rw [decode_eq_ok_iff, encode_eq_ok_iff]
  · -- A valid script is written, so where writing fails a rule is broken.
    cases h : s.violation? with
    | none =>
        rw [encode_of_valid h]
        simp only [reduceCtorEq]
    | some broken => rw [encode_of_violation? h, Except.error.injEq, Option.some.injEq]
  · exact ⟨v.bytes, FieldValue.encode_of_fits (fits_of_valid h v hv)⟩
  · intro s data data' h h'
    rw [(decode_eq_ok_iff.mp h).2, (decode_eq_ok_iff.mp h').2]
  · intro s s' data h h'
    -- Both scripts are what the same bytes are read as.
    rw [← Except.ok.injEq (ε := FormatError)]
    rw [encode_eq_ok_iff, ← decode_eq_ok_iff] at h h'
    rw [← h, ← h']

end Script

end TileTriggers
