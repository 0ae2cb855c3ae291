import TileTriggers.Text.Trim

/-!
# Texts without White Space at Their Ends

Trimming leaves a text alone exactly when neither its first nor its last character
is white space. That is the useful form: whether a text in brackets is trimmed does
not depend on what is inside, and a text put together from trimmed ones is trimmed.

## Main definitions

* `Tight`: No white space at either end.

## Theorems

* `trimBy_eq_self_iff`: Trimming leaves exactly the tight texts alone.
* `trimBy_cons_of_pos`: White space in front makes no difference.
* `tight_of_forall`, `tight_cons_append`, `tight_append`: Where tight texts come from.
-/

namespace TileTriggers

namespace Text

variable {test : Char → Bool}

/-- Neither end of the text satisfies the test. -/
def Tight (test : Char → Bool) (cs : List Char) : Prop :=
  (∀ c ∈ cs.head?, test c = false) ∧ ∀ c ∈ cs.getLast?, test c = false

theorem dropWhile_eq_self_iff {cs : List Char} :
    cs.dropWhile test = cs ↔ ∀ c ∈ cs.head?, test c = false := by
  cases cs with
  | nil => simp
  | cons c cs =>
      -- If the first character passes the test it is dropped, and then something is missing.
      cases hc : test c with
      | false => simp [hc]
      | true =>
          simp only [List.dropWhile_cons, hc, if_true, List.head?_cons, Option.mem_def,
            Option.some.injEq, forall_eq', reduceCtorEq, iff_false]
          intro h
          -- A text from which its first character was dropped is shorter than it was.
          have hle := (List.dropWhile_suffix test (l := cs)).length_le
          rw [h, List.length_cons] at hle
          omega

theorem trimBy_eq_self_iff {cs : List Char} : trimBy test cs = cs ↔ Tight test cs := by
  rw [trimBy, Tight, ← dropWhile_eq_self_iff]
  constructor
  · intro h
    -- Cutting at the front and at the back only shortens, so neither did.
    have hback := (List.dropWhile_suffix test (l := (cs.dropWhile test).reverse)).length_le
    have hfront := (List.dropWhile_suffix test (l := cs)).length_le
    have hlength := congrArg List.length h
    rw [List.length_reverse] at hback hlength
    have hcs : cs.dropWhile test = cs :=
      (List.dropWhile_suffix test).eq_of_length (by omega)
    refine ⟨hcs, ?_⟩
    rw [hcs, List.reverse_eq_iff, dropWhile_eq_self_iff, List.head?_reverse] at h
    exact h
  · rintro ⟨hcs, hlast⟩
    rw [hcs, List.reverse_eq_iff, dropWhile_eq_self_iff, List.head?_reverse]
    exact hlast

theorem trimBy_cons_of_pos {c : Char} (h : test c = true) (cs : List Char) :
    trimBy test (c :: cs) = trimBy test cs := by
  rw [trimBy, List.dropWhile_cons_of_pos h, trimBy]

/-- A text without any white space is tight. -/
theorem tight_of_forall {cs : List Char} (h : ∀ c ∈ cs, test c = false) : Tight test cs :=
  ⟨fun c hc => h c (List.mem_of_mem_head? hc), fun c hc => h c (List.mem_of_mem_getLast? hc)⟩

/-- A text between two characters is tight when these are not white space. -/
theorem tight_cons_append {a b : Char} (ha : test a = false) (hb : test b = false)
    (cs : List Char) : Tight test (a :: (cs ++ [b])) := by
  constructor
  · intro c hc
    rw [List.head?_cons, Option.mem_some_iff] at hc
    rw [← hc]
    exact ha
  · intro c hc
    rw [← List.cons_append, List.getLast?_concat, Option.mem_some_iff] at hc
    rw [← hc]
    exact hb

/-- A text put together is tight when both of its parts are. -/
theorem tight_append {as bs : List Char} (has : Tight test as) (hbs : Tight test bs)
    (ha : as ≠ []) (hb : bs ≠ []) (between : List Char) : Tight test (as ++ between ++ bs) := by
  constructor
  · intro c hc
    rw [List.append_assoc, List.head?_append, Option.or_of_isSome (by simpa using ha)] at hc
    exact has.1 c hc
  · intro c hc
    rw [List.getLast?_append, Option.or_of_isSome (by simpa using hb)] at hc
    exact hbs.2 c hc

end Text

end TileTriggers
