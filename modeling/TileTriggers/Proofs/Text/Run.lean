import TileTriggers.Proofs.Text.Trim
import Mathlib.Data.List.DropRight
import Mathlib.Data.List.TakeDrop

/-!
# Runs of Characters

A reader that takes characters as long as they satisfy a test takes a run, and a run
ends where the next character fails the test. Where that is depends on the text alone,
so a text is cut behind the run at its front in one way only.

Trimming is the same from both ends. What it leaves is what stands between two runs of
white space and has no white space at its own ends.

## Theorems

* `span_eq_iff`, `dropWhile_eq_iff`: A text is cut behind the run at its front.
* `append_inj_of_run`: The end of a run is determined.
* `trimBy_eq_iff`: What trimming leaves, and what it takes away.
* `mem_trimBy_iff`: Trimming takes away white space only.
-/

namespace TileTriggers

namespace Text

variable {test : Char → Bool} {cs run run' rest rest' : List Char}

/-- A text is split behind the run at its front that satisfies a test. -/
theorem span_eq_iff : cs.span test = (run, rest) ↔
    cs = run ++ rest ∧ (∀ c ∈ run, test c) ∧ ∀ c ∈ rest.head?, test c = false := by
  rw [List.span_eq_takeWhile_dropWhile, Prod.mk.injEq]
  constructor
  · rintro ⟨rfl, rfl⟩
    refine ⟨List.takeWhile_append_dropWhile.symm, fun _ => List.mem_takeWhile_imp, ?_⟩
    exact dropWhile_eq_self_iff.mp (List.dropWhile_idempotent test cs)
  · rintro ⟨rfl, hrun, hrest⟩
    -- The run ends where the rest begins, so of the rest nothing is taken.
    have hdrop : rest.dropWhile test = rest := dropWhile_eq_self_iff.mpr hrest
    have happend : rest.takeWhile test ++ rest.dropWhile test = rest :=
      List.takeWhile_append_dropWhile
    rw [hdrop, List.append_left_eq_self] at happend
    rw [List.takeWhile_append_of_pos hrun, List.dropWhile_append_of_pos hrun, happend, hdrop,
      List.append_nil]
    exact ⟨rfl, rfl⟩

theorem dropWhile_eq_iff : cs.dropWhile test = rest ↔
    ∃ run, cs = run ++ rest ∧ (∀ c ∈ run, test c) ∧ ∀ c ∈ rest.head?, test c = false := by
  constructor
  · rintro rfl
    exact ⟨cs.takeWhile test, span_eq_iff.mp (List.span_eq_takeWhile_dropWhile test cs)⟩
  · rintro ⟨run, h⟩
    have hspan := span_eq_iff.mpr h
    rw [List.span_eq_takeWhile_dropWhile, Prod.mk.injEq] at hspan
    exact hspan.2

/-- Two texts that begin with a run each are equal only run by run. -/
theorem append_inj_of_run (hrun : ∀ c ∈ run, test c) (hrun' : ∀ c ∈ run', test c)
    (hrest : ∀ c ∈ rest.head?, test c = false) (hrest' : ∀ c ∈ rest'.head?, test c = false)
    (h : run ++ rest = run' ++ rest') : run = run' ∧ rest = rest' := by
  have hspan := span_eq_iff.mpr ⟨rfl, hrun, hrest⟩
  rw [h, span_eq_iff.mpr ⟨rfl, hrun', hrest'⟩, Prod.mk.injEq] at hspan
  exact ⟨hspan.1.symm, hspan.2.symm⟩

theorem head?_cons_of_neg {c : Char} (h : test c = false) (rest : List Char) :
    ∀ d ∈ (c :: rest).head?, test d = false := by
  intro d hd
  rw [← Option.mem_some_iff.mp hd]
  exact h

section Trim

variable {core : List Char}

/-- Every text is what trimming leaves of it between two runs of white space. -/
theorem exists_eq_append_trimBy (test : Char → Bool) (cs : List Char) :
    ∃ left right, cs = left ++ (trimBy test cs ++ right) ∧ (∀ c ∈ left, test c) ∧
      (∀ c ∈ right, test c) ∧ Tight test (trimBy test cs) := by
  rcases dropWhile_eq_iff.mp (rfl : cs.dropWhile test = _) with ⟨left, hcs, hleft, hhead⟩
  rcases dropWhile_eq_iff.mp (rfl : (cs.dropWhile test).reverse.dropWhile test = _) with
    ⟨right, hback, hright, hlast⟩
  -- Trimming drops a run from the front and then one from the back.
  have hfront : cs.dropWhile test = trimBy test cs ++ right.reverse := by
    rw [trimBy, ← List.reverse_append, ← hback, List.reverse_reverse]
  refine ⟨left, right.reverse, ?_, hleft, fun c hc => hright c (List.mem_reverse.mp hc), ?_, ?_⟩
  · rw [← hfront]
    exact hcs
  · -- The first character that is left, if any, is where the run in front ends.
    intro c hc
    refine hhead c ?_
    rw [hfront, List.head?_append, Option.mem_def, Option.mem_def.mp hc, Option.some_or]
  · intro c hc
    rw [trimBy, List.getLast?_reverse] at hc
    exact hlast c hc

/-- Trimming a text between two runs of white space leaves it alone if it is tight. -/
theorem trimBy_append {left right : List Char} (hleft : ∀ c ∈ left, test c)
    (hright : ∀ c ∈ right, test c) (hcore : Tight test core) :
    trimBy test (left ++ (core ++ right)) = core := by
  have hback : ∀ c ∈ right.reverse, test c := fun c hc => hright c (List.mem_reverse.mp hc)
  rw [trimBy, List.dropWhile_append_of_pos hleft]
  -- With nothing between them the two runs are one, and all of it is dropped.
  by_cases hnil : core = []
  · rw [hnil, List.nil_append, List.dropWhile_eq_nil_iff.mpr hright]
    rfl
  · have hfront : (core ++ right).dropWhile test = core ++ right := by
      rw [dropWhile_eq_self_iff]
      intro c hc
      rw [List.head?_append_of_ne_nil _ hnil] at hc
      exact hcore.1 c hc
    -- From behind, the run ends at the last character of the core.
    have hlast : core.reverse.dropWhile test = core.reverse := by
      rw [dropWhile_eq_self_iff, List.head?_reverse]
      exact hcore.2
    rw [hfront, List.reverse_append, List.dropWhile_append_of_pos hback, hlast,
      List.reverse_reverse]

/-- What trimming leaves of a text is what stands between two runs of white space and
    has none at its own ends. -/
theorem trimBy_eq_iff : trimBy test cs = core ↔
    ∃ left right, cs = left ++ (core ++ right) ∧ (∀ c ∈ left, test c) ∧ (∀ c ∈ right, test c) ∧
      Tight test core := by
  constructor
  · intro h
    rw [← h]
    exact exists_eq_append_trimBy test cs
  · intro h
    rcases h with ⟨left, right, hcs, hleft, hright, hcore⟩
    rw [hcs]
    exact trimBy_append hleft hright hcore

theorem tight_trimBy (test : Char → Bool) (cs : List Char) : Tight test (trimBy test cs) := by
  rcases exists_eq_append_trimBy test cs with ⟨left, right, -, -, -, htight⟩
  exact htight

/-- A character that is no white space is in a text exactly when trimming leaves it there. -/
theorem mem_trimBy_iff {c : Char} (hc : test c = false) : c ∈ trimBy test cs ↔ c ∈ cs := by
  rcases exists_eq_append_trimBy test cs with ⟨left, right, hcs, hleft, hright, -⟩
  have hnotLeft : c ∉ left := fun h => absurd (hleft c h) (by simp [hc])
  have hnotRight : c ∉ right := fun h => absurd (hright c h) (by simp [hc])
  have hmem : c ∈ cs ↔ c ∈ left ++ (trimBy test cs ++ right) := by rw [← hcs]
  rw [hmem]
  simp [hnotLeft, hnotRight]

end Trim

end Text

end TileTriggers
