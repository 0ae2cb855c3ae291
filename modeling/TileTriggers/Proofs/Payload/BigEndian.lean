import TileTriggers.Payload.Cursor
import Mathlib.Tactic.Ring

/-!
# Numbers as Bytes

A number below `256 ^ width` and a sequence of `width` bytes determine each other.
Both directions are needed: one so that a written number is read back, the other
so that no two sequences of bytes are read as one number.

Writing cuts off what does not fit, so a multiple of `256 ^ width` makes no
difference to the bytes. This is how the induction goes through: the tail of a
number's bytes is the bytes of its remainder.

## Theorems

* `ofBigEndian_cons`: The first byte counts for the most.
* `ofBigEndian_lt`: The bound that the number of bytes sets.
* `ofBigEndian_bigEndian`: A number that fits is read back.
* `bigEndian_ofBigEndian`: Bytes are written back.
-/

namespace TileTriggers

theorem foldl_bigEndian (n : Nat) (bytes : List UInt8) :
    bytes.foldl (fun n b => 256 * n + b.toNat) n = n * 256 ^ bytes.length + ofBigEndian bytes := by
  -- What was read so far is multiplied along, so the induction is about any start.
  induction bytes generalizing n with
  | nil => simp only [ofBigEndian, List.foldl_nil, List.length_nil, pow_zero, Nat.mul_one,
      Nat.add_zero]
  | cons b bytes ih =>
      rw [ofBigEndian, List.foldl_cons, List.foldl_cons, ih, ih (256 * 0 + b.toNat),
        List.length_cons, Nat.pow_succ]
      ring

/-- The first byte of a number counts for the most. -/
theorem ofBigEndian_cons (b : UInt8) (bytes : List UInt8) :
    ofBigEndian (b :: bytes) = b.toNat * 256 ^ bytes.length + ofBigEndian bytes := by
  rw [ofBigEndian, List.foldl_cons, foldl_bigEndian, Nat.mul_zero, Nat.zero_add]

theorem ofBigEndian_lt (bytes : List UInt8) : ofBigEndian bytes < 256 ^ bytes.length := by
  induction bytes with
  | nil => simp only [ofBigEndian, List.foldl_nil, List.length_nil, pow_zero, Nat.zero_lt_one]
  | cons b bytes ih =>
      have hb : b.toNat + 1 ≤ 256 := b.toNat_lt
      have hmul := Nat.mul_le_mul_right (256 ^ bytes.length) hb
      rw [ofBigEndian_cons, List.length_cons, Nat.pow_succ, Nat.mul_comm _ 256]
      rw [Nat.add_mul, Nat.one_mul] at hmul
      omega

theorem bigEndian_succ (width n : Nat) :
    bigEndian (width + 1) n = UInt8.ofNat (n / 256 ^ width) :: bigEndian width n := rfl

@[simp] theorem length_bigEndian (width n : Nat) : (bigEndian width n).length = width := by
  induction width with
  | zero => rfl
  | succ width ih => rw [bigEndian_succ, List.length_cons, ih]

/-- What does not fit the bytes makes no difference to them. -/
theorem bigEndian_add_mul (width n k : Nat) :
    bigEndian width (n + 256 ^ width * k) = bigEndian width n := by
  induction width generalizing k with
  | zero => rfl
  | succ width ih =>
      -- What does not fit fewer bytes is a multiple of 256 for the byte in front of them.
      have hpow : 256 ^ (width + 1) * k = 256 ^ width * (256 * k) := by ring
      have hpos : 0 < 256 ^ width := Nat.pow_pos (by omega)
      rw [bigEndian_succ, bigEndian_succ, hpow, ih, Nat.add_mul_div_left _ _ hpos]
      congr 1
      apply UInt8.toNat_inj.mp
      rw [UInt8.toNat_ofNat', UInt8.toNat_ofNat']
      omega

/-- A number that fits its bytes is read back from them. -/
theorem ofBigEndian_bigEndian {width n : Nat} (h : n < 256 ^ width) :
    ofBigEndian (bigEndian width n) = n := by
  induction width generalizing n with
  | zero =>
      have hn : n = 0 := by omega
      rw [hn]
      rfl
  | succ width ih =>
      have hpos : 0 < 256 ^ width := Nat.pow_pos (by omega)
      have htop : n / 256 ^ width < 256 := by
        rw [Nat.div_lt_iff_lt_mul hpos, Nat.mul_comm]
        exact h
      -- The bytes behind the first are those of the remainder.
      have htail : bigEndian width n = bigEndian width (n % 256 ^ width) := by
        conv_lhs => rw [← Nat.mod_add_div n (256 ^ width)]
        exact bigEndian_add_mul width _ _
      rw [bigEndian_succ, ofBigEndian_cons, length_bigEndian, htail, ih (Nat.mod_lt _ hpos),
        UInt8.toNat_ofNat', Nat.mod_eq_of_lt htop, Nat.mul_comm]
      exact Nat.div_add_mod n _

/-- Bytes are written back from the number that they spell. -/
theorem bigEndian_ofBigEndian (bytes : List UInt8) :
    bigEndian bytes.length (ofBigEndian bytes) = bytes := by
  induction bytes with
  | nil => rfl
  | cons b bytes ih =>
      have hlt := ofBigEndian_lt bytes
      have hpos : 0 < 256 ^ bytes.length := Nat.pow_pos (by omega)
      -- The first byte is the quotient, and the others are the remainder.
      have hsum : b.toNat * 256 ^ bytes.length + ofBigEndian bytes
          = ofBigEndian bytes + 256 ^ bytes.length * b.toNat := by ring
      rw [List.length_cons, bigEndian_succ, ofBigEndian_cons, hsum, bigEndian_add_mul, ih,
        Nat.add_mul_div_left _ _ hpos, Nat.div_eq_of_lt hlt, Nat.zero_add, UInt8.ofNat_toNat]

end TileTriggers
