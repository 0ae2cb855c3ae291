/-!
# Steps That Can Fail

Compiling, loading and saving are sequences of steps any of which may fail. A
sequence succeeds exactly when its first step does and the rest does on the result,
so a success can be taken apart step by step without unfolding how failures are
passed on.

The other way round, what is known of the errors of all steps is known of the errors
of the sequence.

## Main definitions

* `FailsOnly`: A step with errors of one sort only.

## Theorems

* `bind_eq_ok`, `bind_eq_error`: A sequence succeeds exactly when both of its steps do.
* `map_eq_ok`, `mapM_eq_ok_iff_map`: Where the results of a success come from.
* `mapM_of_forall`: A step that succeeds on every element of a list succeeds on
  the list.
* `mapM_eq_error_iff`: A list fails with its first element that does.
* `FailsOnly.bind`, `FailsOnly.map`, `FailsOnly.mapM`: The errors of a sequence are
  those of its steps.
-/

namespace TileTriggers

namespace Fallible

variable {ε α β : Type}

@[simp]
theorem ok_bind (a : α) (k : α → Except ε β) : (.ok a : Except ε α) >>= k = k a :=
  rfl

@[simp]
theorem error_bind (e : ε) (k : α → Except ε β) : (.error e : Except ε α) >>= k = .error e :=
  rfl

/-- A sequence succeeds exactly when both of its steps do. -/
theorem bind_eq_ok {r : Except ε α} {k : α → Except ε β} {b : β} :
    r >>= k = .ok b ↔ ∃ a, r = .ok a ∧ k a = .ok b := by
  cases r with
  | error e =>
      constructor
      · intro h
        exact absurd h (by simp only [bind, Except.bind, reduceCtorEq, not_false_eq_true])
      · rintro ⟨a, ha, -⟩
        exact absurd ha (by simp only [reduceCtorEq, not_false_eq_true])
  | ok a =>
      constructor
      · intro h
        exact ⟨a, rfl, h⟩
      · rintro ⟨a', ha, h⟩
        rw [Except.ok.inj ha]
        exact h

/-- A sequence fails where its first step does, and otherwise where its second does. -/
theorem bind_eq_error {r : Except ε α} {k : α → Except ε β} {e : ε} :
    r >>= k = .error e ↔ r = .error e ∨ ∃ a, r = .ok a ∧ k a = .error e := by
  cases r with
  | error e' => simp
  | ok a => simp

theorem toOption_eq_some {r : Except ε α} {a : α} : r.toOption = some a ↔ r = .ok a := by
  cases r <;> simp [Except.toOption]

/-- A step that succeeds on every element of a list succeeds on the list. -/
theorem mapM_of_forall {m : Type → Type} [Monad m] [LawfulMonad m] {f : α → m β} {g : α → β}
    {as : List α} (h : ∀ a ∈ as, f a = pure (g a)) : as.mapM f = pure (as.map g) := by
  induction as with
  | nil => rfl
  | cons a as ih =>
      rw [List.forall_mem_cons] at h
      rw [List.mapM_cons, h.1, ih h.2, pure_bind, pure_bind, List.map_cons]

theorem map_eq_ok {r : Except ε α} {f : α → β} {b : β} :
    f <$> r = .ok b ↔ ∃ a, r = .ok a ∧ f a = b := by
  cases r with
  | error e => simp [Functor.map, Except.map]
  | ok a => simp [Functor.map, Except.map]

/-- A step that succeeds only where a function can be undone undoes it on a list. -/
theorem mapM_eq_ok_iff_map {f : α → Except ε β} {g : β → α}
    (h : ∀ a b, f a = .ok b ↔ a = g b) {as : List α} {bs : List β} :
    as.mapM f = .ok bs ↔ as = bs.map g := by
  induction as generalizing bs with
  | nil =>
      cases bs with
      | nil => simp [pure, Except.pure]
      | cons b bs => simp [pure, Except.pure]
  | cons a as ih =>
      rw [List.mapM_cons, bind_eq_ok]
      -- The lists are taken apart together, since each element yields one result.
      simp only [h, bind_eq_ok, ih]
      cases bs with
      | nil => simp [pure, Except.pure]
      | cons b bs => simp [pure, Except.pure]

/-- A list fails with the error of its first element that does. -/
theorem mapM_eq_error_iff {f : α → Except ε β} {as : List α} {e : ε} :
    as.mapM f = .error e ↔ ∃ before a behind, as = before ++ a :: behind ∧
      (∀ a' ∈ before, ∃ b, f a' = .ok b) ∧ f a = .error e := by
  induction as with
  | nil =>
      simp only [List.mapM_nil, pure, Except.pure, reduceCtorEq, false_iff]
      rintro ⟨before, a, behind, h, -⟩
      exact absurd h.symm (by simp)
  | cons a as ih =>
      rw [List.mapM_cons]
      -- If the first element fails it decides, and otherwise the rest of the list does.
      cases ha : f a with
      | error e' =>
          rw [error_bind, Except.error.injEq]
          constructor
          · rintro rfl
            exact ⟨[], a, as, rfl, by simp, ha⟩
          · -- The first element that fails is the first of all.
            rintro ⟨before, a', behind, h, hbefore, he⟩
            cases before with
            | nil =>
                rw [← (List.cons.inj h).1, ha] at he
                exact Except.error.inj he
            | cons b before =>
                rcases hbefore b List.mem_cons_self with ⟨c, hc⟩
                rw [← (List.cons.inj h).1, ha] at hc
                exact absurd hc (by simp only [reduceCtorEq, not_false_eq_true])
      | ok b =>
          -- Putting the first result in front of the others does not fail.
          simp only [ok_bind, bind_eq_error, pure, Except.pure, reduceCtorEq, and_false,
            exists_false, or_false]
          rw [ih]
          constructor
          · rintro ⟨before, a', behind, rfl, hbefore, he⟩
            exact ⟨a :: before, a', behind, rfl, List.forall_mem_cons.mpr ⟨⟨b, ha⟩, hbefore⟩, he⟩
          · rintro ⟨before, a', behind, h, hbefore, he⟩
            cases before with
            | nil =>
                rw [← (List.cons.inj h).1, ha] at he
                exact absurd he (by simp only [reduceCtorEq, not_false_eq_true])
            | cons b' before =>
                rw [List.forall_mem_cons] at hbefore
                exact ⟨before, a', behind, (List.cons.inj h).2, hbefore.2, he⟩

/-- A step that ends in errors of one sort only, if it does not succeed. -/
def FailsOnly (P : ε → Prop) (r : Except ε α) : Prop :=
  ∀ e, r = .error e → P e

section FailsOnly

variable {P : ε → Prop}

theorem failsOnly_ok (a : α) : FailsOnly P (.ok a : Except ε α) := by
  intro e h
  exact absurd h (by simp only [reduceCtorEq, not_false_eq_true])

theorem failsOnly_error_iff {e : ε} : FailsOnly P (.error e : Except ε α) ↔ P e := by
  constructor
  · intro h
    exact h e rfl
  · intro h e' he'
    rw [← Except.error.inj he']
    exact h

theorem failsOnly_error {e : ε} (h : P e) : FailsOnly P (.error e : Except ε α) :=
  failsOnly_error_iff.mpr h

theorem FailsOnly.mono {Q : ε → Prop} {r : Except ε α} (hr : FailsOnly P r)
    (h : ∀ e, P e → Q e) : FailsOnly Q r := by
  intro e he
  exact h e (hr e he)

/-- The second step is only taken on the result of the first. -/
theorem FailsOnly.bind_of_ok {r : Except ε α} {k : α → Except ε β} (hr : FailsOnly P r)
    (hk : ∀ a, r = .ok a → FailsOnly P (k a)) : FailsOnly P (r >>= k) := by
  cases r with
  | error e => exact failsOnly_error (hr e rfl)
  | ok a => exact hk a rfl

theorem FailsOnly.bind {r : Except ε α} {k : α → Except ε β} (hr : FailsOnly P r)
    (hk : ∀ a, FailsOnly P (k a)) : FailsOnly P (r >>= k) :=
  hr.bind_of_ok fun a _ => hk a

theorem FailsOnly.map {r : Except ε α} (hr : FailsOnly P r) (f : α → β) :
    FailsOnly P (f <$> r) := by
  cases r with
  | error e => exact failsOnly_error (hr e rfl)
  | ok a => exact failsOnly_ok (f a)

theorem FailsOnly.mapM {f : α → Except ε β} (h : ∀ a, FailsOnly P (f a)) (as : List α) :
    FailsOnly P (as.mapM f) := by
  induction as with
  | nil => exact failsOnly_ok []
  | cons a as ih =>
      rw [List.mapM_cons]
      exact (h a).bind fun b => ih.bind fun bs => failsOnly_ok (b :: bs)

end FailsOnly

end Fallible

end TileTriggers
