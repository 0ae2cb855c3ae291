import TileTriggers.Map.Pool

/-!
# What the Pool Does to the Ids in Use

Each operation of the pool has one lemma, and it tells which ids are in use
afterwards. Nothing else about the pool matters to a document: not where the probe
is, and not which events are told.

Where the probe is matters to the order in which ids are handed out. The search takes
the first free id on its way round, so all ids that it goes past are in use.

## Theorems

* `contains_release`, `contains_retain`: Ids given back.
* `nextFree?_clear`: A cleared pool begins anew.
* `nextFree?_eq_none_iff`: No id is left exactly when all are in use.
* `nextFree?_eq_some`, `contains_allocate?`: An id handed out was free, and is the
  only one that comes into use.
* `contains_of_sub_lt`: The ids that the search goes past are in use.
-/

namespace TileTriggers

namespace Pool

variable {p : Pool} {id other : UInt8}

theorem contains_release :
    (p.release id).value.contains other = (p.contains other && id != other) := by
  rw [release]
  cases h : p.contains id with
  | true => exact IdSet.contains_erase p.used id other
  | false =>
      -- An id that is not in use is none of those that are.
      change p.contains other = _
      cases hother : p.contains other with
      | false => rfl
      | true =>
          have hne : id ≠ other := by
            rintro rfl
            exact absurd (h.symm.trans hother) (by decide)
          rw [Bool.true_and, bne_iff_ne.mpr hne]

theorem contains_retain {keep : UInt8 → Bool} :
    (p.retain keep).value.contains id = (p.contains id && keep id) :=
  IdSet.contains_filter p.used keep id

/-- A pool that is cleared has no past, and so it hands out the first id again. -/
theorem nextFree?_clear (p : Pool) : p.clear.nextFree? = some 0 := by
  change fresh.nextFree? = some 0
  decide +kernel

/-- The search goes round all ids. -/
theorem mem_searchOrder (p : Pool) (id : UInt8) : id ∈ p.searchOrder := by
  -- An id is as far from the probe as the difference of the two, going round.
  refine List.mem_map.mpr ⟨id - p.probe, mem_allIds _, ?_⟩
  rw [UInt8.add_comm, UInt8.sub_add_cancel]

theorem nextFree?_eq_none_iff : p.nextFree? = none ↔ ∀ id, p.contains id = true := by
  simp [nextFree?, mem_searchOrder]

/-- The id that is handed out next is free. -/
theorem nextFree?_eq_some (h : p.nextFree? = some id) : p.contains id = false := by
  simpa using List.find?_some h

theorem contains_allocate? {allocated : Logged (UInt8 × Pool)}
    (h : p.allocate? = some allocated) :
    p.contains allocated.value.1 = false ∧
      ∀ id, allocated.value.2.contains id = (p.contains id || allocated.value.1 == id) := by
  rw [allocate?, Option.map_eq_some_iff] at h
  rcases h with ⟨fresh, hfresh, rfl⟩
  exact ⟨nextFree?_eq_some hfresh, fun id => IdSet.contains_insert p.used fresh id⟩

theorem getElem_searchOrder {i : Nat} (hi : i < p.searchOrder.length) :
    p.searchOrder[i] = p.probe + UInt8.ofNat i := by
  simp [searchOrder, allIds]

/-- The ids on the way from the probe to the id that is handed out next are in use. -/
theorem contains_of_sub_lt (h : p.nextFree? = some id) (hother : other - p.probe < id - p.probe) :
    p.contains other = true := by
  rcases List.find?_eq_some_iff_getElem.mp h with ⟨-, i, hi, hid, hbefore⟩
  have hi : i < 256 := by simpa [searchOrder, allIds] using hi
  -- The way to an id is its position in the order of the search.
  have hposition : (other - p.probe).toNat < i := by
    have hprobe := p.probe.toNat_lt
    have hlt := other.toNat_lt
    rw [← hid, getElem_searchOrder, UInt8.lt_iff_toNat_lt] at hother
    simp only [UInt8.toNat_sub, UInt8.toNat_add, UInt8.toNat_ofNat'] at hother ⊢
    omega
  have hused := hbefore _ hposition
  rw [getElem_searchOrder, UInt8.ofNat_toNat, UInt8.add_comm, UInt8.sub_add_cancel] at hused
  simpa using hused

end Pool

end TileTriggers
