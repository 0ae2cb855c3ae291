import TileTriggers.Proofs.Payload.BigEndian
import TileTriggers.Proofs.Vocabulary

/-!
# Readers as Inverses

A round trip says that a reader finds back what a writer wrote. It does not say
that the reader accepts nothing else, and a reader that skips a byte or takes two
spellings for one value passes it. `Read.Inverts` says both at once: the reader
succeeds exactly on data that begins with the bytes of a value, gives that value,
and stops right behind the bytes.

The bytes are a total function of the value, and a predicate tells for which
values they are the right ones. A count byte can be computed for a list of any
length, but it only leads back to the list when the count fits.

The property is stated at a cursor and not for whole data, which is what makes it
close under sequencing: `inverts_bind` chains two readers. The value of the first
has to be a part of the value of the second, since it must be found back from
there.

## Main definitions

* `Read.Inverts`: A reader undoes an encoding and accepts nothing else.

## Theorems

* `bind_eq_ok_iff`: A sequence succeeds when both of its readers do.
* `inverts_pure`, `inverts_fail`: Readers that consume nothing.
* `inverts_bind`, `inverts_map`, `inverts_map₂`: Readers put together.
* `inverts_byte`, `inverts_bytes`, `inverts_number`: The primitive readers.
* `inverts_lookup`: A reader that looks a byte up in a vocabulary.
* `inverts_times`: A reader run several times over.
-/

namespace TileTriggers

namespace Read

variable {ε α β γ : Type}

/-- A reader that undoes an encoding of the values that fit. It succeeds exactly
    where the bytes of such a value are next, and leaves off behind them. -/
def Inverts (r : Read ε α) (bytes : α → List UInt8) (Fits : α → Prop) : Prop :=
  ∀ c a c', r c = .ok (a, c') ↔
    Fits a ∧ c.unread = bytes a ++ c'.unread ∧ c'.position = c.position + (bytes a).length

theorem bind_eq_ok_iff {r : Read ε α} {k : α → Read ε β} {c c'' : Cursor} {b : β} :
    (r >>= k) c = .ok (b, c'') ↔ ∃ a c', r c = .ok (a, c') ∧ k a c' = .ok (b, c'') := by
  change ((r c) >>= fun p => k p.1 p.2) = _ ↔ _
  -- The second reader begins where the first one ended, and only if it succeeded.
  cases hr : r c with
  | error e => simp [bind, Except.bind]
  | ok p =>
      rcases p with ⟨a, c'⟩
      constructor
      · intro h
        exact ⟨a, c', rfl, h⟩
      · rintro ⟨a, c', ⟨⟩, h⟩
        exact h

theorem pure_eq_ok_iff {a b : α} {c c' : Cursor} :
    (pure a : Read ε α) c = .ok (b, c') ↔ a = b ∧ c = c' := by
  change Except.ok (a, c) = _ ↔ _
  simp

theorem map_eq_ok_iff {r : Read ε α} {f : α → β} {c c' : Cursor} {b : β} :
    (f <$> r) c = .ok (b, c') ↔ ∃ a, r c = .ok (a, c') ∧ f a = b := by
  rw [map_eq_pure_bind, bind_eq_ok_iff]
  simp only [pure_eq_ok_iff]
  constructor
  · rintro ⟨a, c'', hr, hf, rfl⟩
    exact ⟨a, hr, hf⟩
  · rintro ⟨a, hr, hf⟩
    exact ⟨a, c', hr, hf, rfl⟩

/-- A reader that consumes nothing undoes an encoding of its one value by nothing. -/
theorem inverts_pure {a : α} {bytes : α → List UInt8} {Fits : α → Prop}
    (hfits : ∀ b, a = b ↔ Fits b) (hbytes : bytes a = []) :
    Inverts (pure a : Read ε α) bytes Fits := by
  intro c b c'
  rw [pure_eq_ok_iff, ← hfits b]
  constructor
  · rintro ⟨rfl, rfl⟩
    rw [hbytes]
    exact ⟨rfl, rfl, rfl⟩
  · rintro ⟨rfl, hunread, hposition⟩
    rw [hbytes] at hunread hposition
    -- Nothing is consumed, so the two cursors are the same in both of their parts.
    rcases c with ⟨position, unread⟩
    rcases c' with ⟨position', unread'⟩
    simp only [List.nil_append, List.length_nil, Nat.add_zero] at hunread hposition
    rw [hunread, hposition]
    exact ⟨rfl, rfl⟩

/-- A reader that always fails undoes any encoding that no value fits. -/
theorem inverts_fail {error : ε} {bytes : α → List UInt8} {Fits : α → Prop}
    (h : ∀ a, ¬ Fits a) : Inverts (fail error : Read ε α) bytes Fits := by
  intro c a c'
  simp only [fail, reduceCtorEq, h a, false_and]

/-- Readers in sequence undo encodings in sequence. The second reader may depend on
    the value of the first, so a value of the sequence fits when some value of the
    first leads to it. -/
theorem inverts_bind {r : Read ε α} {k : α → Read ε β} {bytes : α → List UInt8}
    {bytes' : β → List UInt8} {Fits : α → Prop} {Fits' : β → Prop}
    (bytes₂ : α → β → List UInt8) (Fits₂ : α → β → Prop) (hr : Inverts r bytes Fits)
    (hk : ∀ a, Fits a → Inverts (k a) (bytes₂ a) (Fits₂ a))
    (hbytes : ∀ a b, Fits a → Fits₂ a b → bytes' b = bytes a ++ bytes₂ a b)
    (hfits : ∀ b, Fits' b ↔ ∃ a, Fits a ∧ Fits₂ a b) : Inverts (r >>= k) bytes' Fits' := by
  intro c b c''
  rw [bind_eq_ok_iff, hfits b]
  constructor
  · rintro ⟨a, c', h₁, h₂⟩
    rcases (hr c a c').mp h₁ with ⟨ha, hunread, hposition⟩
    -- The second reader begins where the first left off.
    rcases (hk a ha c' b c'').mp h₂ with ⟨hb, hunread', hposition'⟩
    rw [hbytes a b ha hb]
    refine ⟨⟨a, ha, hb⟩, ?_, ?_⟩
    · rw [hunread, hunread', List.append_assoc]
    · rw [hposition', hposition, List.length_append, Nat.add_assoc]
  · rintro ⟨⟨a, ha, hb⟩, hunread, hposition⟩
    rw [hbytes a b ha hb] at hunread hposition
    -- The cursor between the two is determined by the bytes of the first value.
    refine ⟨a, ⟨c.position + (bytes a).length, bytes₂ a b ++ c''.unread⟩, ?_, ?_⟩
    · exact (hr c _ _).mpr ⟨ha, by rw [hunread, List.append_assoc], rfl⟩
    · refine (hk a ha _ b c'').mpr ⟨hb, rfl, ?_⟩
      rw [hposition, List.length_append, Nat.add_assoc]

/-- The same value in another form. -/
theorem inverts_map {r : Read ε α} {bytes : α → List UInt8} {bytes' : β → List UInt8}
    {Fits : α → Prop} {Fits' : β → Prop} {f : α → β} (h : Inverts r bytes Fits)
    (hbytes : ∀ a, Fits a → bytes' (f a) = bytes a)
    (hfits : ∀ b, Fits' b ↔ ∃ a, Fits a ∧ f a = b) : Inverts (f <$> r) bytes' Fits' := by
  intro c b c'
  rw [map_eq_ok_iff, hfits b]
  constructor
  · rintro ⟨a, hr, rfl⟩
    rcases (h c a c').mp hr with ⟨ha, hrest⟩
    rw [← hbytes a ha] at hrest
    exact ⟨⟨a, ha, rfl⟩, hrest⟩
  · rintro ⟨⟨a, ha, rfl⟩, hrest⟩
    rw [hbytes a ha] at hrest
    exact ⟨a, (h c a c').mpr ⟨ha, hrest⟩, rfl⟩

/-- Two values put together. -/
theorem inverts_map₂ {r : Read ε α} {r₂ : Read ε β} {f : α → β → γ} {bytes : α → List UInt8}
    {bytes₂ : β → List UInt8} {bytes' : γ → List UInt8} {Fits : α → Prop} {Fits₂ : β → Prop}
    {Fits' : γ → Prop} (hr : Inverts r bytes Fits) (hr₂ : Inverts r₂ bytes₂ Fits₂)
    (hbytes : ∀ a b, Fits a → Fits₂ b → bytes' (f a b) = bytes a ++ bytes₂ b)
    (hfits : ∀ p, Fits' p ↔ ∃ a b, Fits a ∧ Fits₂ b ∧ f a b = p) :
    Inverts (r >>= fun a => r₂ >>= fun b => pure (f a b)) bytes' Fits' := by
  simp only [bind_pure_comp]
  -- The bytes of the second value are those of the whole behind the first's.
  refine inverts_bind (fun a p => (bytes' p).drop (bytes a).length)
    (fun a p => ∃ b, Fits₂ b ∧ f a b = p) hr
    (fun a ha => inverts_map hr₂ (fun b hb => ?_) fun p => Iff.rfl) ?_ fun p => ?_
  · rw [hbytes a b ha hb, List.drop_left]
  · rintro a p ha ⟨b, hb, rfl⟩
    rw [hbytes a b ha hb, List.drop_left]
  · rw [hfits p]
    constructor
    · rintro ⟨a, b, ha, hb, rfl⟩
      exact ⟨a, ha, b, hb, rfl⟩
    · rintro ⟨a, ha, b, hb, rfl⟩
      exact ⟨a, b, ha, hb, rfl⟩

/-- A reader that only looks where it is before it goes on. -/
theorem inverts_position {k : Nat → Read ε α} {bytes : α → List UInt8} {Fits : α → Prop}
    (h : ∀ n, Inverts (k n) bytes Fits) : Inverts (position >>= k) bytes Fits := by
  intro c a c'
  exact h c.position c a c'

theorem inverts_byte : Inverts byte (fun b => [b]) (fun _ => True) := by
  intro c b c'
  rcases c with ⟨position, unread⟩
  rcases c' with ⟨position', unread'⟩
  cases unread with
  | nil => simp [byte]
  | cons first rest => simp [byte, eq_comm, and_assoc, and_comm]

theorem inverts_bytes (n : Nat) : Inverts (bytes n) id (fun bs => bs.length = n) := by
  intro c bs c'
  rcases c with ⟨position, unread⟩
  rcases c' with ⟨position', unread'⟩
  simp only [bytes, id]
  constructor
  · intro h
    split at h
    · exact absurd h (by simp only [reduceCtorEq, not_false_eq_true])
    · rename_i hlength
      simp only [Except.ok.injEq, Prod.mk.injEq, Cursor.mk.injEq] at h
      rcases h with ⟨rfl, rfl, rfl⟩
      -- There was enough to take, or the reader would have failed.
      have hn : (unread.take n).length = n := by
        rw [List.length_take] at hlength ⊢
        omega
      exact ⟨hn, (List.take_append_drop n unread).symm, by rw [hn]⟩
  · rintro ⟨rfl, rfl, rfl⟩
    simp

theorem inverts_number (width : Nat) :
    Inverts (number width) (bigEndian width) (fun n => n < 256 ^ width) := by
  refine inverts_map (inverts_bytes width) ?_ ?_
  · rintro bs rfl
    exact bigEndian_ofBigEndian bs
  · intro n
    constructor
    · intro hn
      exact ⟨bigEndian width n, length_bigEndian width n, ofBigEndian_bigEndian hn⟩
    · rintro ⟨bs, rfl, rfl⟩
      exact ofBigEndian_lt bs

/-- A byte that is looked up undoes the encoding that the look-up inverts. -/
theorem inverts_lookup [Vocabulary α] [Vocabulary.Faithful α] (error : UInt8 → Nat → FormatError) :
    Inverts (lookup error Vocabulary.ofByte?) (fun a : α => [Vocabulary.byte a])
      (fun _ => True) := by
  refine inverts_position fun offset => ?_
  intro c a c'
  rw [bind_eq_ok_iff]
  constructor
  · rintro ⟨b, c'', hbyte, hfound⟩
    cases ha' : (Vocabulary.ofByte? b : Option α) with
    | none =>
        rw [ha'] at hfound
        exact absurd hfound (by simp only [fail, reduceCtorEq, not_false_eq_true])
    | some a' =>
        rw [ha'] at hfound
        rcases pure_eq_ok_iff.mp hfound with ⟨rfl, rfl⟩
        -- The byte that was read is the only one that is looked up as this word.
        have hb : b = Vocabulary.byte a' := Vocabulary.ofByte?_eq_some_iff.mp ha'
        subst hb
        exact (inverts_byte c _ c'').mp hbyte
  · intro h
    -- The byte of a word is there, and it is looked up as this word.
    refine ⟨Vocabulary.byte a, c', (inverts_byte c _ c').mpr h, ?_⟩
    rw [Vocabulary.ofByte?_eq_some_iff.mpr rfl]
    rfl

/-- A reader that is run several times over undoes the encodings one after the
    other, and gives as many values. -/
theorem inverts_times {r : Read ε α} {bytes : α → List UInt8} {Fits : α → Prop}
    (h : Inverts r bytes Fits) (n : Nat) :
    Inverts (times n r) (List.flatMap bytes) (fun as => as.length = n ∧ ∀ a ∈ as, Fits a) := by
  induction n with
  | zero =>
      refine inverts_pure (fun as => ?_) rfl
      cases as <;> simp
  | succ n ih =>
      refine inverts_map₂ h ih (fun a as _ _ => List.flatMap_cons) fun as => ?_
      -- One more value needs one more run of the reader, and it comes first.
      cases as with
      | nil => simp
      | cons a as => simp [and_left_comm]

end Read

end TileTriggers
