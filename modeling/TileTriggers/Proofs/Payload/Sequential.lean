import TileTriggers.Proofs.Payload.Inverse

/-!
# Readers and Data That Goes On

A reader takes the data from left to right and looks no further than it has come, so
what follows in the data does not change what it has found. A reader that succeeded
succeeds with the same value when there is more data, and leaves all of that unread.
A reader that failed fails with the same error, unless it failed for want of data.

This is the part of reading that `Read.Inverts` leaves open. That property tells on
which data a reader succeeds and says nothing about the errors. `Read.Sequential` tells
the two sorts of errors apart: those that say that the data is too short, and those that
say that something in it is wrong. Only the first sort can be mended by more data. What
exactly an error of either sort says about the data is left to two parameters, since
the readers of payloads and those of maps say it in different types.

Errors name offsets from the start of the data. So the property is about cursors that
stand somewhere in some data, and it speaks of all that data and not of what is unread.

## Main definitions

* `Cursor.Within`: A cursor that stands in some data.
* `Cursor.extend`: A cursor when more data follows.
* `Read.Sequential`: A reader whose findings are not changed by what follows.

## Theorems

* `Cursor.Within.advance`: Reading leads to another place of the same data.
* `bind_eq_error_iff`: A sequence fails when one of its readers does.
* `Sequential.exists_error_of_append`: On less data than it takes, a reader runs out.
* `Sequential.of_inverts`: Only the errors have to be looked at.
* `Sequential.bind`, `Sequential.map`, `sequential_times`: Readers put together.
* `sequential_byte`, `sequential_bytes`, `sequential_lookup`: The primitive readers.
-/

namespace TileTriggers

namespace Cursor

/-- A cursor that stands in some data: what is unread is what the data holds from its
    position on. -/
structure Within (data : List UInt8) (c : Cursor) : Prop where
  position_le : c.position ≤ data.length
  unread : c.unread = data.drop c.position

/-- The cursor at the same place when more data follows. -/
def extend (c : Cursor) (extra : List UInt8) : Cursor :=
  ⟨c.position, c.unread ++ extra⟩

@[simp] theorem unread_extend (c : Cursor) (extra : List UInt8) :
    (c.extend extra).unread = c.unread ++ extra := rfl

theorem within_start (data : List UInt8) : (start data).Within data :=
  ⟨Nat.zero_le _, rfl⟩

/-- Every cursor stands in some data. What it has passed can have been anything. -/
theorem exists_within (c : Cursor) : ∃ data, c.Within data := by
  have hlength : (List.replicate c.position (0 : UInt8)).length = c.position :=
    List.length_replicate
  -- Zeros stand in for what was passed, as many as there were.
  refine ⟨List.replicate c.position 0 ++ c.unread, ?_, (List.drop_left' hlength).symm⟩
  rw [List.length_append, hlength]
  exact Nat.le_add_right _ _

namespace Within

variable {data : List UInt8} {c : Cursor}

/-- Behind what is read next, a cursor still stands in the data. -/
theorem advance (h : c.Within data) {bytes rest : List UInt8} (hunread : c.unread = bytes ++ rest) :
    (⟨c.position + bytes.length, rest⟩ : Cursor).Within data := by
  have hdrop : data.drop c.position = bytes ++ rest := h.unread.symm.trans hunread
  -- What is read next is part of the data, so its end is no further than the data's.
  have hlength := congrArg List.length hdrop
  have hle := h.position_le
  rw [List.length_drop, List.length_append] at hlength
  constructor
  · change c.position + bytes.length ≤ data.length
    omega
  · change rest = data.drop (c.position + bytes.length)
    rw [← List.drop_drop, hdrop, List.drop_left]

/-- The next byte is the one that the data holds at the position. -/
theorem getElem?_position (h : c.Within data) {b : UInt8} {rest : List UInt8}
    (hunread : c.unread = b :: rest) : data[c.position]? = some b := by
  have hdrop : data.drop c.position = b :: rest := h.unread.symm.trans hunread
  have hhead : (data.drop c.position)[0]? = some b := by
    rw [hdrop]
    rfl
  rw [List.getElem?_drop, Nat.add_zero] at hhead
  exact hhead

/-- With nothing left to read, the position is the end of the data. -/
theorem position_eq_length (h : c.Within data) (hunread : c.unread = []) :
    c.position = data.length := by
  have hdrop : data.drop c.position = [] := h.unread.symm.trans hunread
  have hge := List.drop_eq_nil_iff.mp hdrop
  have hle := h.position_le
  omega

end Within

end Cursor

namespace Read

variable {ε ε' α β : Type}

/-- A reader whose findings are not changed by what follows in the data. Its errors are
    of two sorts, about the whole of the data that the cursor stands in: that there is
    too little of it, or that something is wrong with what is there. Only in the former
    case can the reader go on when there is more. -/
structure Sequential (Short Wrong : List UInt8 → ε → Prop) (r : Read ε α) : Prop where
  ok : ∀ (data : List UInt8) (c : Cursor) (a : α) (c' : Cursor), c.Within data →
    r c = .ok (a, c') →
      c'.Within data ∧ ∀ extra, r (c.extend extra) = .ok (a, c'.extend extra)
  error : ∀ (data : List UInt8) (c : Cursor) (e : ε), c.Within data → r c = .error e →
    Short data e ∨ Wrong data e ∧ ∀ extra, r (c.extend extra) = .error e

theorem bind_eq_error_iff {r : Read ε α} {k : α → Read ε β} {c : Cursor} {e : ε} :
    (r >>= k) c = .error e ↔
      r c = .error e ∨ ∃ a c', r c = .ok (a, c') ∧ k a c' = .error e := by
  change ((r c) >>= fun p => k p.1 p.2) = _ ↔ _
  cases hr : r c with
  | error e' => simp [bind, Except.bind]
  | ok p =>
      rcases p with ⟨a, c'⟩
      constructor
      · intro h
        exact Or.inr ⟨a, c', rfl, h⟩
      · rintro (h | ⟨a, c', ⟨⟩, h⟩)
        · exact absurd h (by simp only [reduceCtorEq, not_false_eq_true])
        · exact h

variable {Short Wrong : List UInt8 → ε → Prop} {r : Read ε α}

/-- A reader that takes all of some data runs out on any shorter beginning of it. It
    cannot succeed there, for then it would leave the rest unread, and no other error
    would go away with the rest. -/
theorem Sequential.exists_error_of_append (hr : Sequential Short Wrong r) {data extra : List UInt8}
    {a : α} {c : Cursor} (hne : extra ≠ []) (h : r (.start (data ++ extra)) = .ok (a, c))
    (hend : c.unread = []) : ∃ e, r (.start data) = .error e ∧ Short data e := by
  have hlonger : (Cursor.start data).extend extra = .start (data ++ extra) := rfl
  cases hshorter : r (.start data) with
  | ok p =>
      rcases p with ⟨a', c'⟩
      -- A success on the beginning would leave `extra` unread, and nothing was left unread.
      have hsame := (hr.ok data _ a' c' (Cursor.within_start data) hshorter).2 extra
      rw [hlonger, h] at hsame
      have hcursor := congrArg (fun p => p.2.unread) (Except.ok.inj hsame)
      change c.unread = c'.unread ++ extra at hcursor
      rw [hend] at hcursor
      exact absurd (List.append_eq_nil_iff.mp hcursor.symm).2 hne
  | error e =>
      rcases hr.error data _ e (Cursor.within_start data) hshorter with hshort | ⟨-, hsame⟩
      · exact ⟨e, rfl, hshort⟩
      · have hfailed := hsame extra
        -- An error that does not go away with `extra` contradicts the success there.
        rw [hlonger, h] at hfailed
        exact absurd hfailed (by simp only [reduceCtorEq, not_false_eq_true])

/-- Where a reader that undoes an encoding succeeds depends only on what it takes, so
    nothing but its errors is left to look at. -/
theorem Sequential.of_inverts {bytes : α → List UInt8} {Fits : α → Prop}
    (hinverts : Inverts r bytes Fits)
    (herror : ∀ (data : List UInt8) (c : Cursor) (e : ε), c.Within data → r c = .error e →
      Short data e ∨ Wrong data e ∧ ∀ extra, r (c.extend extra) = .error e) :
    Sequential Short Wrong r where
  ok data c a c' hc h := by
    rcases (hinverts c a c').mp h with ⟨hfits, hunread, hposition⟩
    constructor
    · have hadvanced := hc.advance hunread
      rw [← hposition] at hadvanced
      exact hadvanced
    · intro extra
      -- What follows is no part of the encoding, so it moves to what is left.
      refine (hinverts _ a _).mpr ⟨hfits, ?_, hposition⟩
      change c.unread ++ extra = bytes a ++ (c'.unread ++ extra)
      rw [hunread, List.append_assoc]
  error := herror

theorem sequential_pure (a : α) : Sequential Short Wrong (pure a : Read ε α) where
  ok data c b c' hc h := by
    rcases pure_eq_ok_iff.mp h with ⟨rfl, rfl⟩
    exact ⟨hc, fun extra => rfl⟩
  error data c e hc h := by
    change Except.ok (a, c) = Except.error e at h
    cases h

/-- An error that is right about any data at all. -/
theorem sequential_fail {e : ε} (h : ∀ data, Wrong data e) :
    Sequential Short Wrong (fail e : Read ε α) where
  ok data c a c' hc hok := absurd hok (by simp only [fail, reduceCtorEq, not_false_eq_true])
  error data c e' hc herror := by
    rw [← Except.error.inj herror]
    exact Or.inr ⟨h data, fun extra => rfl⟩

theorem sequential_position : Sequential Short Wrong (position : Read ε Nat) where
  ok data c n c' hc h := by
    cases h
    exact ⟨hc, fun extra => rfl⟩
  error data c e hc h := absurd h (by simp only [position, reduceCtorEq, not_false_eq_true])

/-- Readers in sequence. The second one need only be looked at for values that the first
    one can give. -/
theorem Sequential.bind {k : α → Read ε β} (hr : Sequential Short Wrong r)
    (hk : ∀ c a c', r c = .ok (a, c') → Sequential Short Wrong (k a)) :
    Sequential Short Wrong (r >>= k) where
  ok data c b c'' hc h := by
    -- Both readers stay within the data, and more of it leads them the same way.
    rcases bind_eq_ok_iff.mp h with ⟨a, c', hfirst, hsecond⟩
    rcases hr.ok data c a c' hc hfirst with ⟨hc', hfirst'⟩
    rcases (hk c a c' hfirst).ok data c' b c'' hc' hsecond with ⟨hc'', hsecond'⟩
    refine ⟨hc'', fun extra => ?_⟩
    exact bind_eq_ok_iff.mpr ⟨a, c'.extend extra, hfirst' extra, hsecond' extra⟩
  error data c e hc h := by
    -- The error is that of the first reader, or of the second behind a success.
    rcases bind_eq_error_iff.mp h with hfirst | ⟨a, c', hfirst, hsecond⟩
    · rcases hr.error data c e hc hfirst with hshort | ⟨hwrong, hfirst'⟩
      · exact Or.inl hshort
      · refine Or.inr ⟨hwrong, fun extra => ?_⟩
        exact bind_eq_error_iff.mpr (Or.inl (hfirst' extra))
    · -- The first reader takes the same bytes of the longer data, and so the second
      -- one begins at the same place.
      rcases hr.ok data c a c' hc hfirst with ⟨hc', hfirst'⟩
      rcases (hk c a c' hfirst).error data c' e hc' hsecond with hshort | ⟨hwrong, hsecond'⟩
      · exact Or.inl hshort
      · refine Or.inr ⟨hwrong, fun extra => ?_⟩
        exact bind_eq_error_iff.mpr
          (Or.inr ⟨a, c'.extend extra, hfirst' extra, hsecond' extra⟩)

theorem Sequential.map (hr : Sequential Short Wrong r) (f : α → β) :
    Sequential Short Wrong (f <$> r) := by
  rw [map_eq_pure_bind]
  exact hr.bind fun _ a _ _ => sequential_pure (f a)

theorem sequential_times (hr : Sequential Short Wrong r) (n : Nat) :
    Sequential Short Wrong (times n r) := by
  induction n with
  | zero => exact sequential_pure []
  | succ n ih => exact hr.bind fun _ a _ _ => ih.bind fun _ as _ _ => sequential_pure (a :: as)

/-- The same reader under another type of errors. -/
theorem Sequential.adaptError {f : ε → ε'} {Short' Wrong' : List UInt8 → ε' → Prop}
    (hr : Sequential Short Wrong r) (hshort : ∀ data e, Short data e → Short' data (f e))
    (hwrong : ∀ data e, Wrong data e → Wrong' data (f e)) :
    Sequential Short' Wrong' (adaptError f r) where
  ok data c a c' hc h := by
    -- Only the type of the errors changes, so the reader is looked at underneath.
    cases hread : r c with
    | error e =>
        rw [Read.adaptError, hread] at h
        exact absurd h (by simp only [Except.mapError, reduceCtorEq, not_false_eq_true])
    | ok p =>
        rw [Read.adaptError, hread] at h
        rcases p with ⟨b, c''⟩
        cases h
        rcases hr.ok data c a c' hc hread with ⟨hc', hread'⟩
        refine ⟨hc', fun extra => ?_⟩
        rw [Read.adaptError, hread' extra]
        rfl
  error data c e hc h := by
    cases hread : r c with
    | ok p =>
        rw [Read.adaptError, hread] at h
        exact absurd h (by simp only [Except.mapError, reduceCtorEq, not_false_eq_true])
    | error e' =>
        rw [Read.adaptError, hread] at h
        cases h
        rcases hr.error data c e' hc hread with hshort' | ⟨hwrong', hread'⟩
        · exact Or.inl (hshort data e' hshort')
        · refine Or.inr ⟨hwrong data e' hwrong', fun extra => ?_⟩
          rw [Read.adaptError, hread' extra]
          rfl

section Primitive

variable {Short Wrong : List UInt8 → FormatError → Prop}

theorem sequential_byte (hshort : ∀ data, Short data (.unexpectedEnd data.length)) :
    Sequential Short Wrong byte := by
  refine .of_inverts inverts_byte fun data c e hc h => ?_
  cases hunread : c.unread with
  | nil =>
      rw [byte, hunread] at h
      cases h
      -- A byte is missing only at the end of the data, so this is the place.
      rw [hc.position_eq_length hunread]
      exact Or.inl (hshort data)
  | cons b rest =>
      rw [byte, hunread] at h
      exact absurd h (by simp only [reduceCtorEq, not_false_eq_true])

/-- Bytes that are read at once are missed where the first of them should be, which need
    not be the end of the data. -/
theorem sequential_bytes (hshort : ∀ data offset, offset ≤ data.length →
    Short data (.unexpectedEnd offset)) (n : Nat) : Sequential Short Wrong (bytes n) := by
  refine .of_inverts (inverts_bytes n) fun data c e hc h => ?_
  unfold bytes at h
  simp only at h
  -- There is no error but this one, and then nothing was taken.
  split_ifs at h with hlength
  · cases h
    exact Or.inl (hshort data c.position hc.position_le)

theorem sequential_number (hshort : ∀ data offset, offset ≤ data.length →
    Short data (.unexpectedEnd offset)) (width : Nat) : Sequential Short Wrong (number width) :=
  (sequential_bytes hshort width).map ofBigEndian

section Lookup

variable {error : UInt8 → Nat → FormatError} {find? : UInt8 → Option α} {value : UInt8}
  {offset : Nat} {rest : List UInt8}

theorem lookup_of_some {a : α} (h : find? value = some a) :
    lookup error find? ⟨offset, value :: rest⟩ = .ok (a, ⟨offset + 1, rest⟩) := by
  refine bind_eq_ok_iff.mpr ⟨offset, _, rfl, bind_eq_ok_iff.mpr ⟨value, _, rfl, ?_⟩⟩
  rw [h]
  rfl

theorem lookup_of_none (h : find? value = none) :
    lookup error find? ⟨offset, value :: rest⟩ = .error (error value offset) := by
  refine bind_eq_error_iff.mpr (Or.inr ⟨offset, _, rfl, ?_⟩)
  refine bind_eq_error_iff.mpr (Or.inr ⟨value, _, rfl, ?_⟩)
  rw [h]
  rfl

end Lookup

/-- A byte that is looked up in vain is at the offset that the error names. -/
theorem sequential_lookup [Vocabulary α] [Vocabulary.Faithful α]
    {error : UInt8 → Nat → FormatError} (hshort : ∀ data, Short data (.unexpectedEnd data.length))
    (hwrong : ∀ data value offset, data[offset]? = some value → Wrong data (error value offset)) :
    Sequential Short Wrong (lookup error Vocabulary.ofByte? : Read FormatError α) := by
  refine .of_inverts (inverts_lookup error) fun data c e hc h => ?_
  rcases c with ⟨offset, unread⟩
  cases unread with
  | nil =>
      cases h
      -- No byte is there to be looked up, so it is the data that ends.
      have hend : offset = data.length := hc.position_eq_length rfl
      rw [hend]
      exact Or.inl (hshort data)
  | cons value rest =>
      -- Whether the byte is known does not depend on what follows it.
      cases hfound : (Vocabulary.ofByte? value : Option α) with
      | some a =>
          rw [lookup_of_some hfound] at h
          cases h
      | none =>
          rw [lookup_of_none hfound] at h
          cases h
          refine Or.inr ⟨hwrong data value offset (hc.getElem?_position rfl), fun extra => ?_⟩
          exact lookup_of_none hfound

end Primitive

end Read

end TileTriggers
