/-!
# ASCII Text

There are only 128 ASCII characters, so what is to be known of one of them can be looked
up. A character below 128 is one byte in UTF-8, and that byte is its code point. A text
of such characters has as many bytes as characters, and a sequence of such bytes is
the encoding of exactly one text.

## Theorems

* `of_ascii`: A fact about ASCII characters checked for each of them.
* `utf8ByteSize_eq`: The size of a text is the length of its encoding.
* `flatMap_utf8EncodeChar_of_ascii`: The encoding of ASCII characters.
* `lt_of_mem_flatMap`: Its bytes are below 128.
* `ofList_map_eq_iff`: A text that bytes below 128 stand for is encoded by them, and
  no other ASCII text is.
-/

namespace TileTriggers

namespace Text

/-- What holds of the first 128 characters holds of every character below 128. -/
theorem of_ascii {P : Char → Prop} (h : ∀ n < 128, P (Char.ofNat n)) {c : Char}
    (hc : c.toNat < 128) : P c := by
  -- A character is known by its number, so there are 128 cases to be decided.
  rw [← Char.ofNat_toNat c]
  exact h c.toNat hc

theorem toLower_lt_of_ascii {c : Char} (h : c.toNat < 128) : c.toLower.toNat < 128 :=
  of_ascii (P := fun c => c.toLower.toNat < 128) (by decide +kernel) h

theorem utf8ByteSize_eq (s : String) :
    s.utf8ByteSize = (s.toList.flatMap String.utf8EncodeChar).length := by
  rw [String.utf8ByteSize, ← String.utf8Encode_toList, List.utf8Encode]
  exact List.size_toByteArray

theorem utf8EncodeChar_of_ascii {c : Char} (h : c.toNat < 128) :
    String.utf8EncodeChar c = [UInt8.ofNat c.toNat] := by
  rw [String.utf8EncodeChar]
  exact if_pos (by change c.toNat ≤ 127; omega)

/-- ASCII characters are encoded by their code points. -/
theorem flatMap_utf8EncodeChar_of_ascii {cs : List Char} (h : ∀ c ∈ cs, c.toNat < 128) :
    cs.flatMap String.utf8EncodeChar = cs.map fun c => UInt8.ofNat c.toNat := by
  induction cs with
  | nil => rfl
  | cons c cs ih =>
      rw [List.forall_mem_cons] at h
      rw [List.flatMap_cons, utf8EncodeChar_of_ascii h.1, ih h.2, List.map_cons]
      rfl

/-- The bytes of ASCII characters are below 128. -/
theorem lt_of_mem_flatMap {cs : List Char} (h : ∀ c ∈ cs, c.toNat < 128) {b : UInt8}
    (hb : b ∈ cs.flatMap String.utf8EncodeChar) : b < 128 := by
  rw [flatMap_utf8EncodeChar_of_ascii h, List.mem_map] at hb
  rcases hb with ⟨c, hc, rfl⟩
  have hlt := h c hc
  change (UInt8.ofNat c.toNat).toNat < 128
  rw [UInt8.toNat_ofNat_of_lt' (by change c.toNat < 256; omega)]
  exact hlt

theorem toNat_ofNat_of_ascii {b : UInt8} (h : b < 128) : (Char.ofNat b.toNat).toNat = b.toNat := by
  have hlt : b.toNat < 128 := h
  rw [Char.ofNat, dif_pos (Or.inl (by omega))]
  rfl

/-- Bytes below 128 stand for one text, and it is the only ASCII text that they encode. -/
theorem ofList_map_eq_iff {bs : List UInt8} (h : ∀ b ∈ bs, b < 128) {value : String} :
    String.ofList (bs.map fun b => Char.ofNat b.toNat) = value ↔
      value.toList.flatMap String.utf8EncodeChar = bs ∧ ∀ c ∈ value.toList, c.toNat < 128 := by
  constructor
  · rintro rfl
    have hascii : ∀ c ∈ bs.map (fun b => Char.ofNat b.toNat), c.toNat < 128 := by
      intro c hc
      rcases List.mem_map.mp hc with ⟨b, hb, rfl⟩
      rw [toNat_ofNat_of_ascii (h b hb)]
      exact h b hb
    -- A byte, its character and the byte of that are the same number.
    rw [String.toList_ofList]
    refine ⟨?_, hascii⟩
    rw [flatMap_utf8EncodeChar_of_ascii hascii, List.map_map]
    refine (List.map_congr_left fun b hb => ?_).trans (List.map_id bs)
    rw [Function.comp_apply, toNat_ofNat_of_ascii (h b hb), UInt8.ofNat_toNat, id]
  · rintro ⟨rfl, hascii⟩
    rw [flatMap_utf8EncodeChar_of_ascii hascii, List.map_map]
    -- The same the other way round, from a character to its byte and back.
    refine (congrArg String.ofList ?_).trans String.ofList_toList
    refine (List.map_congr_left fun c hc => ?_).trans (List.map_id value.toList)
    have hlt := hascii c hc
    rw [Function.comp_apply, UInt8.toNat_ofNat_of_lt' (by change c.toNat < 256; omega),
      Char.ofNat_toNat, id]

end Text

end TileTriggers
