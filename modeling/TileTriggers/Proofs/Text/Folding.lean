import TileTriggers.Text.Folding
import TileTriggers.Proofs.Text.Ascii

/-!
# What a Character Folds To

The table of foldings read as a function. Within ASCII it takes capitals to small letters
and does nothing else. Outside ASCII there is much that it does, but it leads into ASCII
from two characters only, the long s and the Kelvin sign.

The table is long and most of it is about other characters. So it is gone through once for
each fact about all of it, and a single character is looked for in its first run.

## Main definitions

* `Text.folding`: What a character folds to.
* `Text.IsLookalike`: The two characters outside ASCII that fold into it.

## Theorems

* `Text.folding_of_ascii`: Folding within ASCII.
* `Text.le_folding`: All but the two lookalikes stay outside.
-/

namespace TileTriggers

namespace Text

/-- The code points that fold to others, each with the one it folds to. -/
def foldingPairs : List (Nat × Nat) :=
  foldingRuns.flatMap FoldingRun.pairs

/-- The code point that a character folds to, which is its own if the table has none. -/
def folding (c : Char) : Nat :=
  (foldingPairs.lookup c.toNat).getD c.toNat

/-- A character outside ASCII that folds to an ASCII letter. -/
def IsLookalike (c : Char) : Prop :=
  c = '\u017f' ∨ c = '\u212a'

/-- The table leads into ASCII from within it and from two other characters. -/
theorem lt_of_mem_foldingPairs {source target : Nat} (h : (source, target) ∈ foldingPairs)
    (htarget : target < 128) : source < 128 ∨ source = 0x17f ∨ source = 0x212a := by
  have htable : ∀ pair ∈ foldingPairs,
      pair.2 < 128 → pair.1 < 128 ∨ pair.1 = 0x17f ∨ pair.1 = 0x212a := by
    decide +kernel
  exact htable (source, target) h htarget

/-- An ASCII character is only looked for in the first run. -/
theorem folding_eq_of_ascii {c : Char} (h : c.toNat < 128) :
    folding c = ((FoldingRun.pairs ⟨0x41, 0x5a, 1, 0x61⟩).lookup c.toNat).getD c.toNat := by
  have hfirst : foldingPairs = FoldingRun.pairs ⟨0x41, 0x5a, 1, 0x61⟩ ++
      foldingRuns.tail.flatMap FoldingRun.pairs := rfl
  -- All other runs begin behind ASCII, so they do not have the character.
  have hbehind : ∀ pair ∈ foldingRuns.tail.flatMap FoldingRun.pairs, 128 ≤ pair.1 := by
    decide +kernel
  have hnone : (foldingRuns.tail.flatMap FoldingRun.pairs).lookup c.toNat = none := by
    rw [List.lookup_eq_none_iff]
    intro pair hpair
    have hle := hbehind pair hpair
    rw [bne_iff_ne]
    omega
  rw [folding, hfirst, List.lookup_append, hnone, Option.or_none]

/-- Within ASCII, folding is the same as lower case. -/
theorem folding_of_ascii {c : Char} (h : c.toNat < 128) : folding c = c.toLower.toNat := by
  have hascii : ((FoldingRun.pairs ⟨0x41, 0x5a, 1, 0x61⟩).lookup c.toNat).getD c.toNat =
      c.toLower.toNat :=
    of_ascii (P := fun c => ((FoldingRun.pairs ⟨0x41, 0x5a, 1, 0x61⟩).lookup c.toNat).getD
      c.toNat = c.toLower.toNat) (by decide +kernel) h
  rw [folding_eq_of_ascii h, hascii]

theorem le_folding {c : Char} (h : 128 ≤ c.toNat) (hc : ¬ IsLookalike c) : 128 ≤ folding c := by
  rw [folding]
  -- A character that is not in the table folds to itself, outside ASCII as it is.
  cases htarget : foldingPairs.lookup c.toNat with
  | none => exact h
  | some target =>
      rw [Option.getD_some]
      refine Nat.not_lt.mp fun hlt => ?_
      rcases List.lookup_eq_some_iff.mp htarget with ⟨before, behind, hpairs, -⟩
      have hmem : (c.toNat, target) ∈ foldingPairs := by
        rw [hpairs]
        exact List.mem_append_right before List.mem_cons_self
      -- Into ASCII the table leads from three places, and the character is at none of them.
      rcases lt_of_mem_foldingPairs hmem hlt with hlow | hs | hk
      · exact absurd h (Nat.not_le.mpr hlow)
      · exact hc (Or.inl (Char.toNat_inj.mp hs))
      · exact hc (Or.inr (Char.toNat_inj.mp hk))

/-- Outside ASCII there are no capitals to the lower case of ASCII. -/
theorem toLower_of_le {c : Char} (h : 128 ≤ c.toNat) : c.toLower = c := by
  have hcapital : ¬ (c.val ≥ 'A'.val ∧ c.val ≤ 'Z'.val) := by
    rintro ⟨-, hle⟩
    exact absurd h (Nat.not_le.mpr (Nat.lt_of_le_of_lt hle (by decide)))
  exact dif_neg hcapital

end Text

end TileTriggers
