import TileTriggers.Payload.Field
import TileTriggers.Proofs.Fallible
import TileTriggers.Proofs.Payload.Inverse
import TileTriggers.Proofs.Text.Ascii

/-!
# Field Values and Their Bytes

The reader for arguments of some kind undoes the writer: it accepts exactly the
bytes that the writer gives to an argument of that kind, with nothing said about
the rules of the schema. A list of no elements has bytes and is read back, and so
has a dialog text with a line break in it.

What the bytes cannot hold is a count that does not fit in front of a list or a
text, and a character beyond ASCII. `FieldValue.Fits` collects these two limits.
The first is what the writer checks as it goes; a valid argument meets both, so
these checks never refuse an argument that broke no rule.

## Main definitions

* `FieldValue.Fits`: The counts of an argument fit and its text is ASCII.
* `FieldValue.bytes`: The bytes of an argument that fits.

## Theorems

* `FieldValue.fits_of_violation?`: An argument that breaks no rule fits.
* `FieldValue.encode_of_fits`: The writer refuses no argument that fits.
* `inverts_field`: The reader of a kind undoes the writer on that kind.
* `inverts_fields`: The reader of a schema undoes the writer along it.
-/

namespace TileTriggers

namespace FieldValue

/-- The counts of an argument fit the bytes in front of it, and a text has one byte
    for each of its characters. -/
def Fits : FieldValue → Prop
  | .ids values => values.length ≤ maxListLength
  | .cells values => values.length ≤ maxListLength
  | .spawns values => values.length ≤ maxListLength
  | .text value => value.utf8ByteSize ≤ maxTextLength ∧ ∀ c ∈ value.toList, c.toNat < 128
  | _ => True

/-- The bytes of an argument that fits. -/
def bytes (v : FieldValue) : List UInt8 :=
  v.encode.toOption.getD []

end FieldValue

theorem length_le_of_listViolation? {field : FieldKind} {n : Nat}
    (h : listViolation? field n = none) : n ≤ maxListLength := by
  unfold listViolation? at h
  split_ifs at h
  omega

/-- A text without a fault is short enough and ASCII. The remaining faults concern
    the script text alone. -/
theorem fits_of_textFault? {text : String} (h : textFault? text = none) :
    text.utf8ByteSize ≤ maxTextLength ∧ ∀ c ∈ text.toList, c.toNat < 128 := by
  unfold textFault? at h
  simp only at h
  -- A fault stands for each way to break the rules, and here none of them is there.
  split_ifs at h with _ hlong hchar
  refine ⟨Nat.le_of_not_lt hlong, fun c hc => ?_⟩
  have hno := fun hbad => hchar (List.any_eq_true.mpr ⟨c, hc, hbad⟩)
  -- A character from 128 on would have been a fault.
  by_contra hge
  exact hno (by simp only [Nat.le_of_not_lt hge, decide_true, Bool.true_or])

namespace FieldValue

/-- An argument that breaks no rule fits its bytes. -/
theorem fits_of_violation? {v : FieldValue} (h : v.violation? = none) : v.Fits := by
  cases v with
  | ids values => exact length_le_of_listViolation? h
  | cells values => exact length_le_of_listViolation? h
  | spawns values => exact length_le_of_listViolation? (Option.or_eq_none_iff.mp h).1
  | text value => exact fits_of_textFault? (Option.map_eq_none_iff.mp h)
  | combine | order | «repeat» | millis | mapIndex | cell => trivial

end FieldValue

theorem counted_of_length_le {α : Type} {field : FieldKind} {encode : α → List UInt8}
    {values : List α} (h : values.length ≤ maxListLength) :
    counted field encode values = .ok (UInt8.ofNat values.length :: values.flatMap encode) := by
  rw [counted, countByte, if_neg (Nat.not_lt.mpr h)]
  rfl

theorem encodeText_of_size_le {text : String} (h : text.utf8ByteSize ≤ maxTextLength) :
    encodeText text
      = .ok (bigEndian 2 text.utf8ByteSize ++ text.toList.flatMap String.utf8EncodeChar) := by
  rw [encodeText, if_neg (Nat.not_lt.mpr h)]

namespace FieldValue

theorem bytes_of_encode {v : FieldValue} {bs : List UInt8} (h : v.encode = .ok bs) :
    v.bytes = bs := by
  rw [bytes, h]
  rfl

/-- The writer refuses no argument that fits. -/
theorem encode_of_fits {v : FieldValue} (h : v.Fits) : v.encode = .ok v.bytes := by
  have hok : ∃ bs, v.encode = .ok bs := by
    -- Only lists and texts have counts that the writer could refuse.
    cases v with
    | ids values => exact ⟨_, counted_of_length_le h⟩
    | cells values => exact ⟨_, counted_of_length_le h⟩
    | spawns values => exact ⟨_, counted_of_length_le h⟩
    | text value => exact ⟨_, encodeText_of_size_le h.1⟩
    | combine | order | «repeat» | millis | mapIndex | cell => exact ⟨_, rfl⟩
  rcases hok with ⟨bs, hbs⟩
  rw [bytes_of_encode hbs, hbs]

/-- The bytes of several arguments that fit, one after the other. -/
theorem mapM_encode_of_fits {vs : List FieldValue} (h : ∀ v ∈ vs, v.Fits) :
    vs.mapM encode = .ok (vs.map bytes) :=
  Fallible.mapM_of_forall fun v hv => encode_of_fits (h v hv)

end FieldValue

namespace Read

theorem inverts_cell : Inverts cell Cell.encode (fun _ => True) := by
  refine inverts_map₂ inverts_byte inverts_byte (fun x y _ _ => rfl) fun c => ?_
  exact ⟨fun _ => ⟨c.x, c.y, trivial, trivial, rfl⟩, fun _ => trivial⟩

theorem inverts_tileType : Inverts tileType (fun t => [t.byte]) (fun _ => True) :=
  inverts_lookup .unknownTileType

theorem inverts_spawn : Inverts spawn Spawn.encode (fun _ => True) := by
  refine inverts_bind (fun _ s => s.id :: s.cell.encode)
    (fun kind s => s.kind = kind) inverts_tileType (fun kind _ => ?_) ?_ fun s => ?_
  · refine inverts_map₂ inverts_byte inverts_cell (fun id c _ _ => rfl) fun s => ?_
    constructor
    · rintro rfl
      exact ⟨s.id, s.cell, trivial, trivial, rfl⟩
    · rintro ⟨id, c, -, -, rfl⟩
      rfl
  · rintro kind s - rfl
    rfl
  · exact ⟨fun _ => ⟨s.kind, trivial, rfl⟩, fun _ => trivial⟩

theorem inverts_list {α : Type} {r : Read FormatError α} {bytes : α → List UInt8}
    (h : Inverts r bytes fun _ => True) :
    Inverts (list r) (fun values => UInt8.ofNat values.length :: values.flatMap bytes)
      (fun values => values.length ≤ maxListLength) := by
  refine inverts_bind _ _ inverts_byte (fun count _ => inverts_times h count.toNat) ?_
    fun values => ?_
  · rintro count values - ⟨hlength, -⟩
    rw [hlength, UInt8.ofNat_toNat]
    rfl
  · constructor
    · intro hlength
      -- The byte of a count is the count again only because the count fits.
      have hcount := UInt8.toNat_ofNat_of_lt' (Nat.lt_succ_of_le hlength)
      exact ⟨UInt8.ofNat values.length, trivial, hcount.symm, fun _ _ => trivial⟩
    · rintro ⟨count, -, hlength, -⟩
      have hcount := count.toNat_lt
      rw [hlength]
      exact Nat.le_of_lt_succ hcount

/-- A text that is read is found back by the encoding in UTF-8, since its characters
    are read one by one from bytes below 128. -/
theorem inverts_text :
    Inverts text
      (fun value => bigEndian 2 value.utf8ByteSize ++ value.toList.flatMap String.utf8EncodeChar)
      (fun value => value.utf8ByteSize ≤ maxTextLength ∧ ∀ c ∈ value.toList, c.toNat < 128) := by
  refine inverts_bind (fun _ value => value.toList.flatMap String.utf8EncodeChar)
    (fun size value => value.utf8ByteSize = size ∧ ∀ c ∈ value.toList, c.toNat < 128)
    (inverts_number 2) (fun size _ => inverts_position fun offset => ?_) ?_ fun value => ?_
  · refine inverts_bind (fun _ _ => [])
      (fun bs value => value.toList.flatMap String.utf8EncodeChar = bs ∧
        ∀ c ∈ value.toList, c.toNat < 128) (inverts_bytes size) (fun bs _ => ?_) ?_ fun value => ?_
    · split_ifs with hall
      · have hlt : ∀ b ∈ bs, b < 128 := by
          simpa only [List.all_eq_true, decide_eq_true_eq] using hall
        exact inverts_pure (fun value => Text.ofList_map_eq_iff hlt) rfl
      · -- A byte from 128 on is in the encoding of no ASCII text.
        refine inverts_fail ?_
        rintro value ⟨rfl, hascii⟩
        exact hall (List.all_eq_true.mpr fun b hb =>
          decide_eq_true (Text.lt_of_mem_flatMap hascii hb))
    · rintro bs value - ⟨rfl, -⟩
      exact (List.append_nil _).symm
    · -- The size of a text is the number of the bytes that encode it.
      rw [Text.utf8ByteSize_eq]
      constructor
      · rintro ⟨hsize, hascii⟩
        exact ⟨_, hsize, rfl, hascii⟩
      · rintro ⟨bs, hsize, rfl, hascii⟩
        exact ⟨hsize, hascii⟩
  · rintro size value - ⟨rfl, -⟩
    rfl
  · constructor
    · rintro ⟨hsize, hascii⟩
      exact ⟨_, Nat.lt_succ_of_le hsize, rfl, hascii⟩
    · rintro ⟨size, hsize, rfl, hascii⟩
      exact ⟨Nat.le_of_lt_succ hsize, hascii⟩

/-- The reader of a kind undoes the writer on the arguments of that kind. -/
theorem inverts_field (kind : FieldKind) :
    Inverts (field kind) FieldValue.bytes (fun v => v.kind = kind ∧ v.Fits) := by
  -- One reader for each kind. What a kind leaves out of the values it cannot read.
  cases kind with
  | combine =>
      refine inverts_map (inverts_lookup _) (fun value _ => rfl) fun v => ?_
      cases v <;> simp [FieldValue.kind, FieldValue.Fits]
  | idList =>
      refine inverts_map (inverts_list inverts_byte) (fun values h => ?_) fun v => ?_
      · exact FieldValue.bytes_of_encode (counted_of_length_le h)
      · cases v <;> simp [FieldValue.kind, FieldValue.Fits]
  | cellList =>
      refine inverts_map (inverts_list inverts_cell) (fun values h => ?_) fun v => ?_
      · exact FieldValue.bytes_of_encode (counted_of_length_le h)
      · cases v <;> simp [FieldValue.kind, FieldValue.Fits]
  | spawnList =>
      refine inverts_map (inverts_list inverts_spawn) (fun values h => ?_) fun v => ?_
      · exact FieldValue.bytes_of_encode (counted_of_length_le h)
      · cases v <;> simp [FieldValue.kind, FieldValue.Fits]
  | order =>
      refine inverts_map (inverts_lookup _) (fun value _ => rfl) fun v => ?_
      cases v <;> simp [FieldValue.kind, FieldValue.Fits]
  | «repeat» =>
      refine inverts_map (inverts_lookup _) (fun value _ => rfl) fun v => ?_
      cases v <;> simp [FieldValue.kind, FieldValue.Fits]
  | millis =>
      -- Four bytes hold exactly the numbers of 32 bits, so none is cut off.
      refine inverts_map (inverts_number 4) (fun n h => ?_) fun v => ?_
      · have hlt : n < 2 ^ 32 := h
        change bigEndian 4 (UInt32.ofNat n).toNat = _
        rw [UInt32.toNat_ofNat_of_lt' hlt]
      · constructor
        · rintro ⟨hkind, -⟩
          cases v with
          | millis ms => exact ⟨ms.toNat, ms.toNat_lt, by rw [UInt32.ofNat_toNat]⟩
          | _ =>
              exact absurd hkind
                (by simp only [FieldValue.kind, reduceCtorEq, not_false_eq_true])
        · rintro ⟨n, -, rfl⟩
          exact ⟨rfl, trivial⟩
  | mapIndex =>
      refine inverts_map inverts_byte (fun value _ => rfl) fun v => ?_
      cases v <;> simp [FieldValue.kind, FieldValue.Fits]
  | cell =>
      refine inverts_map inverts_cell (fun value _ => rfl) fun v => ?_
      cases v <;> simp [FieldValue.kind, FieldValue.Fits]
  | text =>
      refine inverts_map inverts_text (fun value h => ?_) fun v => ?_
      · exact FieldValue.bytes_of_encode (encodeText_of_size_le h.1)
      · cases v <;> simp [FieldValue.kind, FieldValue.Fits]

/-- The reader of a schema undoes the writer on the arguments that follow it. -/
theorem inverts_fields (kinds : List FieldKind) :
    Inverts (fields kinds) (List.flatMap FieldValue.bytes)
      (fun vs => vs.map FieldValue.kind = kinds ∧ ∀ v ∈ vs, v.Fits) := by
  induction kinds with
  | nil =>
      refine inverts_pure (fun vs => ?_) rfl
      cases vs <;> simp
  | cons kind kinds ih =>
      refine inverts_map₂ (inverts_field kind) ih (fun v vs _ _ => List.flatMap_cons) fun vs => ?_
      -- Arguments and schema are of the same length, so they are taken apart together.
      cases vs with
      | nil => simp
      | cons v vs => simp [and_assoc, and_left_comm]

end Read

end TileTriggers
