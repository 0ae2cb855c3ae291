import TileTriggers.Proofs.Map.Rotation

/-!
# The Search for a Free Id

Handing out an id is a loop without a bound: take the id at the probe, move the probe on,
and go round again unless the id was free. `Search` is that loop, one constructor for
each way in which a turn can end, and says nothing of when it ends. The pool looks the id
up in a list of all ids instead, and this is what the two have to do with each other.

The loop ends because some id is free, and that is all that it needs. How many turns it
takes is the way from the probe to the first free id, and each turn makes the way one
shorter. The way is shorter than 256, since from there on the same ids come again and a
free one would have been met before. A free id exists because fewer than 256 are in use,
which is where counting comes in: a set of ids has 256 members only if it has all.

## Main definitions

* `Pool.Search`: The loop.
* `Pool.ahead`: The ids from the probe on, going round.
* `Pool.FirstFree`: The way to the first free id.

## Theorems

* `IdSet.size_eq_iff`: When a set has all ids.
* `Pool.firstFree_succ_iff`: One turn makes the way one shorter.
* `Pool.nextFree?_eq_some_iff`: The id that is found in the list is the first free one.
* `Pool.search_of_firstFree`, `Pool.exists_firstFree_of_search`: The loop finds the same.
* `Pool.allocate_by_search`: What handing out an id does to any pool.
-/

namespace TileTriggers

namespace IdSet

theorem length_allIds : allIds.length = 256 := by
  rw [allIds, List.length_map, List.length_range]

/-- A set with as many members as there are ids has all of them. -/
theorem size_eq_iff {s : IdSet} : s.size = 256 ↔ ∀ id, s.contains id = true := by
  rw [size, toList, ← length_allIds, List.length_filter_eq_length_iff]
  simp only [mem_allIds, true_imp_iff]

end IdSet

namespace Pool

/-- The pool behind an id that was not free: the probe is one further on. -/
def skip (p : Pool) : Pool :=
  ⟨p.probe + 1, p.used⟩

/-- The pool behind an id that was free and is in use from now on. -/
def taking (p : Pool) (id : UInt8) : Pool :=
  ⟨id + 1, p.used.insert id⟩

/-- The search ends with an id and a pool. A turn takes the id at the probe if it is free,
    and otherwise goes on from the next one. -/
inductive Search : Pool → UInt8 → Pool → Prop
  | found {p : Pool} (h : p.contains p.probe = false) : Search p p.probe (p.taking p.probe)
  | next {p q : Pool} {id : UInt8} (h : p.contains p.probe = true) (hrest : Search p.skip id q) :
      Search p id q

/-- The `n`th id from the probe on, and on from 0 behind 255. -/
def ahead (p : Pool) (n : Nat) : UInt8 :=
  p.probe + UInt8.ofNat n

/-- The `n`th id from the probe on is free, and those before it are not. -/
def FirstFree (p : Pool) (n : Nat) : Prop :=
  p.contains (p.ahead n) = false ∧ ∀ m < n, p.contains (p.ahead m) = true

variable {p q : Pool} {n : Nat} {id : UInt8}

theorem ahead_zero (p : Pool) : p.ahead 0 = p.probe :=
  UInt8.add_zero p.probe

theorem ahead_skip (p : Pool) (n : Nat) : p.skip.ahead n = p.ahead (n + 1) := by
  rw [ahead, ahead, skip, UInt8.ofNat_add, UInt8.add_assoc, UInt8.add_comm (UInt8.ofNat n)]
  rfl

/-- All ids have been met after one round. -/
theorem ahead_mod (p : Pool) (n : Nat) : p.ahead (n % 256) = p.ahead n := by
  rw [ahead, ahead, UInt8.ofNat_mod_size]

/-- A turn on an id that is not free makes the way to the first free one shorter. -/
theorem firstFree_succ_iff :
    p.FirstFree (n + 1) ↔ p.contains p.probe = true ∧ p.skip.FirstFree n := by
  -- Behind the probe the ids are one nearer.
  have hskip : ∀ m, p.skip.contains (p.skip.ahead m) = p.contains (p.ahead (m + 1)) := by
    intro m
    rw [ahead_skip]
    rfl
  rw [FirstFree, FirstFree, hskip, and_left_comm]
  refine and_congr_right fun _ => ?_
  simp only [hskip]
  constructor
  · intro h
    exact ⟨ahead_zero p ▸ h 0 (by omega), fun m hm => h (m + 1) (by omega)⟩
  · intro h m hm
    cases m with
    | zero =>
        rw [ahead_zero]
        exact h.1
    | succ m => exact h.2 m (by omega)

/-- The way to the first free id is shorter than a round. -/
theorem FirstFree.lt (h : p.FirstFree n) : n < 256 := by
  refine Nat.lt_of_not_le fun hround => ?_
  -- After a round the same ids come again, and this one would have been met before.
  have hmet := h.2 (n % 256) (by omega)
  rw [ahead_mod, h.1] at hmet
  exact absurd hmet (by decide)

/-- The search in the list of all ids finds the first free one. -/
theorem nextFree?_eq_some_iff :
    p.nextFree? = some id ↔ ∃ n, p.FirstFree n ∧ id = p.ahead n := by
  have hlength : p.searchOrder.length = 256 := by
    rw [searchOrder, List.length_map, IdSet.length_allIds]
  rw [nextFree?, List.find?_eq_some_iff_getElem]
  simp only [Bool.not_eq_true', Bool.not_not, getElem_searchOrder, hlength]
  constructor
  · intro h
    rcases h with ⟨hfree, n, hn, hid, hbefore⟩
    rw [← hid] at hfree
    exact ⟨n, ⟨hfree, hbefore⟩, hid.symm⟩
  · intro h
    rcases h with ⟨n, hfirst, hid⟩
    rw [hid]
    exact ⟨hfirst.1, n, hfirst.lt, rfl, hfirst.2⟩

/-- The loop ends with the first free id. -/
theorem search_of_firstFree (h : p.FirstFree n) :
    p.Search (p.ahead n) (p.taking (p.ahead n)) := by
  -- The way to the free id is what gets shorter from turn to turn.
  induction n generalizing p with
  | zero =>
      have hfree := h.1
      rw [ahead_zero] at hfree ⊢
      exact .found hfree
  | succ n ih =>
      rcases firstFree_succ_iff.mp h with ⟨hused, hrest⟩
      have hsearch := ih hrest
      rw [ahead_skip] at hsearch
      exact .next hused hsearch

/-- Whatever the loop ends with is the first free id. -/
theorem exists_firstFree_of_search (h : p.Search id q) :
    ∃ n, p.FirstFree n ∧ id = p.ahead n ∧ q = p.taking id := by
  -- Each turn of the loop that goes on adds one to the way that was gone.
  induction h with
  | @found p h =>
      refine ⟨0, ⟨?_, fun m hm => absurd hm (Nat.not_lt_zero m)⟩, (ahead_zero p).symm, rfl⟩
      rw [ahead_zero]
      exact h
  | @next p q id h _ ih =>
      rcases ih with ⟨n, hfirst, hid, hq⟩
      exact ⟨n + 1, firstFree_succ_iff.mpr ⟨h, hfirst⟩, hid.trans (ahead_skip p n), hq⟩

theorem allocate?_eq_some_iff : p.allocate? = some ⟨(id, q), [.allocated id]⟩ ↔
    p.nextFree? = some id ∧ q = p.taking id := by
  rw [allocate?, Option.map_eq_some_iff]
  constructor
  · intro h
    rcases h with ⟨free, hfree, heq⟩
    simp only [Logged.mk.injEq, Prod.mk.injEq] at heq
    rcases heq with ⟨⟨hid, hq⟩, -⟩
    rw [← hq, ← hid]
    exact ⟨hfree, rfl⟩
  · intro h
    rw [h.2]
    exact ⟨id, h.1, rfl⟩

/-- The pool hands out an id exactly when the loop ends with it, and leaves the same pool
    behind. -/
theorem search_iff_allocate? :
    p.Search id q ↔ p.allocate? = some ⟨(id, q), [.allocated id]⟩ := by
  rw [allocate?_eq_some_iff, nextFree?_eq_some_iff]
  constructor
  · intro h
    rcases exists_firstFree_of_search h with ⟨n, hfirst, hid, hq⟩
    exact ⟨⟨n, hfirst, hid⟩, hq⟩
  · intro h
    rcases h with ⟨⟨n, hfirst, hid⟩, hq⟩
    rw [hq, hid]
    exact search_of_firstFree hfirst

theorem nextFree?_eq_none_iff_size : p.nextFree? = none ↔ p.used.size = 256 := by
  rw [nextFree?_eq_none_iff, IdSet.size_eq_iff]
  rfl

/-- If not all ids are in use there is a first free one. -/
theorem exists_firstFree (h : p.used.size ≠ 256) : ∃ n, p.FirstFree n := by
  rw [ne_eq, ← nextFree?_eq_none_iff_size, ← ne_eq, Option.ne_none_iff_exists'] at h
  rcases h with ⟨id, hid⟩
  rcases nextFree?_eq_some_iff.mp hid with ⟨n, hfirst, -⟩
  exact ⟨n, hfirst⟩

theorem after_allocate (h : p.FirstFree n) : p.after .allocate = p.taking (p.ahead n) := by
  rw [after, search_iff_allocate?.mp (search_of_firstFree h)]

/-- Handing out an id from any pool. The loop ends exactly with what the pool hands out.
    No id is handed out exactly when all 256 are in use, and then nothing changes.
    Otherwise the loop ends with the first free id from the probe on, which is the only one
    that comes into use, and leaves the probe behind it. -/
theorem allocate_by_search (p : Pool) :
    (∀ id q, p.Search id q ↔ p.allocate? = some ⟨(id, q), [.allocated id]⟩) ∧
      (p.allocate? = none ↔ ∀ id, p.contains id = true) ∧
      (p.used.size = 256 ↔ ∀ id, p.contains id = true) ∧
      ((p.used.size = 256 ∧ p.after .allocate = p) ∨
        ∃ n < 256, p.FirstFree n ∧ p.Search (p.ahead n) (p.after .allocate) ∧
          (p.after .allocate).probe = p.ahead n + 1 ∧
          ∀ id, (p.after .allocate).contains id = (p.contains id || p.ahead n == id)) := by
  have hnone : p.allocate? = none ↔ p.nextFree? = none := by
    rw [allocate?, Option.map_eq_none_iff]
  refine ⟨fun _ _ => search_iff_allocate?, hnone.trans nextFree?_eq_none_iff,
    IdSet.size_eq_iff, ?_⟩
  -- Either all ids are in use or one of them is free, and the loop finds the first.
  by_cases hsize : p.used.size = 256
  · refine Or.inl ⟨hsize, ?_⟩
    rw [after, hnone.mpr (nextFree?_eq_none_iff_size.mpr hsize)]
  · rcases exists_firstFree hsize with ⟨n, hfirst⟩
    rw [after_allocate hfirst]
    exact Or.inr ⟨n, hfirst.lt, hfirst, search_of_firstFree hfirst, rfl,
      fun id => IdSet.contains_insert p.used (p.ahead n) id⟩

/-- The search goes on from 0 behind 255, and the probe ends up behind the id that it finds. -/
example : (Pool.mk 254 (.ofList (allIds.filter (· != 3)))).after .allocate =
    ⟨4, .ofList allIds⟩ := by
  decide +kernel

end Pool

end TileTriggers
