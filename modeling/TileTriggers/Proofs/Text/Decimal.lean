import TileTriggers.Text.Decimal
import Mathlib.Tactic.SplitIfs

/-!
# Numerals and Their Values

A numeral is read exactly when it consists of digits and its value does not pass
the limit. The value is built from the left and tested after every digit, so the
proof needs that the value only grows: once the whole is within the limit, so was
every part.

## Theorems

* `foldlM_push?_eq_some_iff`: What the digits behind a number make of it.
* `value?_eq_some_iff`: What a numeral is read as.
* `value?_digits`: The shortest numeral of a number is read as this number.
-/

namespace TileTriggers

namespace Decimal

theorem push?_eq_some_iff {limit n m : Nat} {c : Char} :
    push? limit n c = some m ↔
      c.isDigit ∧ 10 * n + (c.toNat - '0'.toNat) = m ∧ m ≤ limit := by
  unfold push?
  simp only
  -- A digit is taken only if the number stays within the limit.
  split_ifs with h
  · simp only [Option.some.injEq]
    constructor
    · rintro rfl
      exact ⟨h.1, rfl, h.2⟩
    · exact fun hm => hm.2.1
  · simp only [false_iff]
    rintro ⟨hdigit, rfl, hle⟩
    exact h ⟨hdigit, hle⟩

/-- More digits never make a number smaller. -/
theorem le_ofDigitChars (n : Nat) (cs : List Char) : n ≤ Nat.ofDigitChars 10 cs n := by
  induction cs generalizing n with
  | nil => simp
  | cons c cs ih =>
      rw [Nat.ofDigitChars_cons]
      have h := ih (10 * n + (c.toNat - '0'.toNat))
      omega

/-- The digits behind a number are read exactly when they are digits and the result
    is within the limit. -/
theorem foldlM_push?_eq_some_iff {limit m : Nat} (cs : List Char) {n : Nat} (hn : n ≤ limit) :
    cs.foldlM (push? limit) n = some m ↔
      (∀ c ∈ cs, c.isDigit) ∧ Nat.ofDigitChars 10 cs n = m ∧ m ≤ limit := by
  induction cs generalizing n with
  | nil =>
      simp only [List.foldlM_nil, Nat.ofDigitChars_nil, List.not_mem_nil, false_imp_iff,
        implies_true, true_and, Option.pure_def, Option.some.injEq]
      constructor
      · rintro rfl
        exact ⟨rfl, hn⟩
      · exact And.left
  | cons c cs ih =>
      rw [List.foldlM_cons, List.forall_mem_cons, Nat.ofDigitChars_cons]
      -- Whether the first digit is taken decides whether the others are looked at.
      cases hp : push? limit n c with
      | none =>
          simp only [Option.bind_eq_bind, Option.bind_none, reduceCtorEq, false_iff]
          -- The number has passed the limit already, and the digits behind only add to it.
          rintro ⟨⟨hc, -⟩, hm, hle⟩
          have hgrow := le_ofDigitChars (10 * n + (c.toNat - '0'.toNat)) cs
          have hsome : push? limit n c = some (10 * n + (c.toNat - '0'.toNat)) :=
            push?_eq_some_iff.mpr ⟨hc, rfl, by omega⟩
          rw [hp] at hsome
          exact absurd hsome (by simp only [reduceCtorEq, not_false_eq_true])
      | some k =>
          -- The first digit is taken in, and the rest starts from the number so far.
          rcases push?_eq_some_iff.mp hp with ⟨hc, rfl, hle⟩
          simp only [Option.bind_eq_bind, Option.bind_some]
          rw [ih hle]
          simp only [hc, true_and]

/-- A numeral is read exactly when it consists of one or more digits and its value is
    within the limit. -/
theorem value?_eq_some_iff {limit n : Nat} {cs : List Char} :
    value? limit cs = some n ↔
      cs ≠ [] ∧ (∀ c ∈ cs, c.isDigit) ∧ Nat.ofDigitChars 10 cs 0 = n ∧ n ≤ limit := by
  rw [value?, ← foldlM_push?_eq_some_iff cs (Nat.zero_le limit)]
  -- A numeral without digits is no numeral, though its value would be 0.
  cases cs with
  | nil => simp
  | cons c cs => simp

theorem isDigit_of_mem_digits {n : Nat} {c : Char} (h : c ∈ digits n) : c.isDigit :=
  Nat.isDigit_of_mem_toDigits (by omega) (by omega) h

theorem value?_digits {limit n : Nat} (h : n ≤ limit) : value? limit (digits n) = some n :=
  value?_eq_some_iff.mpr
    ⟨Nat.toDigits_ne_nil, fun _ => isDigit_of_mem_digits, Nat.ofDigitChars_ten_toDigits, h⟩

end Decimal

end TileTriggers
