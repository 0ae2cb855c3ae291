/-!
# Sets of Object Ids

An object id is a byte, so a set of ids is a choice of bits out of 256. Keeping
it as a bit vector makes two sets equal exactly when they have the same members,
which a sorted list or a tree only promises as long as every operation keeps it
in order.

Everything about a set is said through `contains`. Each operation has one lemma
that tells what it does to membership, and `IdSet.ext` turns those into
equations between sets.

## Main definitions

* `allIds`: Every id, ascending.
* `IdSet`: A set of ids.
* `IdSet.contains`, `IdSet.insert`, `IdSet.erase`, `IdSet.filter`: The operations.
* `IdSet.toList`: The members, ascending.
* `IdSet.repeats`: The ids of a list that occurred before.

## Theorems

* `ext`: Sets with the same members are equal.
* `contains_insert`, `contains_erase`, `contains_filter`, `contains_ofList`: What
  the operations do to membership.
* `mem_toList`: The list holds exactly the members.
-/

namespace TileTriggers

/-- Every object id, ascending. -/
def allIds : List UInt8 :=
  (List.range 256).map UInt8.ofNat

/-- No id is missing. -/
theorem mem_allIds (id : UInt8) : id ∈ allIds := by
  simp only [allIds, List.mem_map, List.mem_range]
  exact ⟨id.toNat, id.toNat_lt, UInt8.ofNat_toNat⟩

/-- A set of object ids. -/
structure IdSet where
  bits : BitVec 256
  deriving DecidableEq, Repr

namespace IdSet

/-- The set without members. -/
def empty : IdSet :=
  ⟨0⟩

/-- Whether an id is a member. -/
def contains (s : IdSet) (id : UInt8) : Bool :=
  s.bits.getLsbD id.toNat

/-- A set with one more member. -/
def insert (s : IdSet) (id : UInt8) : IdSet :=
  ⟨s.bits ||| BitVec.twoPow 256 id.toNat⟩

/-- A set without some member. -/
def erase (s : IdSet) (id : UInt8) : IdSet :=
  ⟨s.bits &&& ~~~ BitVec.twoPow 256 id.toNat⟩

/-- The members of a list. -/
def ofList (ids : List UInt8) : IdSet :=
  ids.foldl insert empty

/-- The members, ascending. -/
def toList (s : IdSet) : List UInt8 :=
  allIds.filter s.contains

/-- The members that satisfy a test. -/
def filter (s : IdSet) (test : UInt8 → Bool) : IdSet :=
  ofList (s.toList.filter test)

/-- The members of either set. -/
def union (s t : IdSet) : IdSet :=
  ⟨s.bits ||| t.bits⟩

/-- The ids of a list that occurred before, as often as they occur again. Before are the
    members of a set, which grows by every id that is met. -/
def repeats : IdSet → List UInt8 → List UInt8
  | _, [] => []
  | seen, id :: ids =>
    let behind := repeats (seen.insert id) ids
    if seen.contains id then id :: behind else behind

/-- How many members there are. -/
def size (s : IdSet) : Nat :=
  s.toList.length

/-- Sets with the same members are equal. -/
theorem ext {s t : IdSet} (h : ∀ id, s.contains id = t.contains id) : s = t := by
  rcases s with ⟨a⟩
  rcases t with ⟨b⟩
  congr 1
  refine BitVec.eq_of_getLsbD_eq fun i hi => ?_
  have := h (UInt8.ofNat i)
  simpa [contains, UInt8.toNat_ofNat', Nat.mod_eq_of_lt hi] using this

@[simp] theorem contains_empty (id : UInt8) : empty.contains id = false := by
  simp [empty, contains]

@[simp] theorem contains_insert (s : IdSet) (a b : UInt8) :
    (s.insert a).contains b = (s.contains b || a == b) := by
  have hb := b.toNat_lt
  have ha := a.toNat_lt
  by_cases h : a = b
  · simp [insert, contains, h, hb]
  · have : a.toNat ≠ b.toNat := fun e => h (UInt8.toNat_inj.mp e)
    simp [insert, contains, h, this]

@[simp] theorem contains_erase (s : IdSet) (a b : UInt8) :
    (s.erase a).contains b = (s.contains b && a != b) := by
  have hb := b.toNat_lt
  have ha := a.toNat_lt
  by_cases h : a = b
  · simp [erase, contains, h, hb]
  · have : b.toNat ≠ a.toNat := fun e => h (UInt8.toNat_inj.mp e).symm
    simp [erase, contains, bne_iff_ne.mpr h, this, hb]

@[simp] theorem contains_union (s t : IdSet) (id : UInt8) :
    (s.union t).contains id = (s.contains id || t.contains id) := by
  simp [union, contains]

/-- Inserting a list adds exactly its elements. -/
theorem contains_foldl_insert (ids : List UInt8) (s : IdSet) (id : UInt8) :
    (ids.foldl insert s).contains id = (s.contains id || ids.contains id) := by
  induction ids generalizing s with
  | nil => simp
  | cons a ids ih =>
    rw [List.foldl_cons, ih, contains_insert, List.contains_cons, Bool.or_assoc,
      show (a == id) = (id == a) from BEq.comm]

@[simp] theorem contains_ofList (ids : List UInt8) (id : UInt8) :
    (ofList ids).contains id = ids.contains id := by
  rw [ofList, contains_foldl_insert, contains_empty, Bool.false_or]

/-- The list holds exactly the members. -/
@[simp] theorem mem_toList (s : IdSet) (id : UInt8) : id ∈ s.toList ↔ s.contains id = true := by
  simp [toList, mem_allIds]

@[simp] theorem contains_filter (s : IdSet) (test : UInt8 → Bool) (id : UInt8) :
    (s.filter test).contains id = (s.contains id && test id) := by
  rw [filter, contains_ofList]
  exact Bool.eq_iff_iff.mpr (by simp)

end IdSet

end TileTriggers
