import TileTriggers.Proofs.Map.Pool
import Mathlib.Data.Nat.Init

/-!
# Ids Go Round

An id that was given back is not handed out again before all the others have had their
turn: between two times at which the same id is handed out, every other id has been in
use at some moment. It need not be in use at either end, and nothing is said about why
it was. It may have been handed out, reserved, or in use all along.

The reason is that the probe never goes back. From one time to the next it goes round
once, and it leaves an id behind only when that id is in use or is the one handed out.
What is known in between is `Swept`, that every id from the start up to the probe has
been met in use. A probe that goes past its start has been round, and from then on all
ids have been met and there is no need to know where the probe is.

The calls between the two may be any, and they may give back whatever they like. Ids
that are given back do not change what has been met, and no call but the one that hands
out ids moves the probe.

## Main definitions

* `Pool.Operation`: One call on a pool.
* `Pool.after`, `Pool.afterCalls`: The pool that calls leave behind.
* `Pool.HandsOut`: Which id a call hands out.
* `Pool.Swept`: Every id that the probe has left behind has been met.

## Theorems

* `Pool.swept_after`: One call.
* `Pool.swept_of_handsOut`: Any calls behind one that hands out an id.
* `Pool.contains_between_of_handsOut`: An id is handed out twice.
-/

namespace TileTriggers

namespace Pool

/-- One call on a pool. -/
inductive Operation
  | allocate
  | release (id : UInt8)
  | reserve (id : UInt8)
  | retain (keep : UInt8 → Bool)

/-- The pool that a call leaves behind. It is the same one if no id could be handed
    out. -/
def after (p : Pool) : Operation → Pool
  | .allocate =>
    match p.allocate? with
    | some allocated => allocated.value.2
    | none => p
  | .release id => (p.release id).value
  | .reserve id => p.reserve id
  | .retain keep => (p.retain keep).value

/-- The pool that some calls leave behind, one after the other. -/
def afterCalls (p : Pool) (calls : List Operation) : Pool :=
  calls.foldl after p

/-- An id is handed out by the call that follows the first `k`. -/
def HandsOut (p : Pool) (calls : List Operation) (k : Nat) (id : UInt8) : Prop :=
  calls[k]? = some .allocate ∧
    (p.afterCalls (calls.take k)).allocate?.map (fun allocated => allocated.value.1) = some id

/-- An id is in use at some moment behind the first `m` calls and not behind more than
    `n`. -/
def InUseBetween (p : Pool) (calls : List Operation) (m n : Nat) (id : UInt8) : Prop :=
  ∃ k, m < k ∧ k ≤ n ∧ (p.afterCalls (calls.take k)).contains id = true

/-- Every id on the way from where the probe started to where it is has been met, or
    else all ids have, the probe having been round. -/
def Swept (start probe : UInt8) (met : UInt8 → Prop) : Prop :=
  (∀ id, met id) ∨ ∀ id, id - start < probe - start → met id

section Way

variable {start probe taken id : UInt8}

/-- When the way from the probe leads past the start, it leads past all ids that were
    not left behind before. -/
theorem sub_lt_of_round (hround : taken - start < probe - start)
    (hid : ¬ id - start < probe - start) : id - probe < taken - probe := by
  have hstart := start.toNat_lt
  have hprobe := probe.toNat_lt
  have htaken := taken.toNat_lt
  have hlt := id.toNat_lt
  -- Ways are differences of ids, which wrap, so this is arithmetic of remainders.
  simp only [UInt8.lt_iff_toNat_lt, UInt8.toNat_sub] at *
  omega

/-- An id that is left behind now and was not before is on the way to the one that is
    taken, or is that one. -/
theorem sub_lt_of_passed (hid : ¬ id - start < probe - start)
    (hpassed : id - start < taken + 1 - start) (hne : id ≠ taken) :
    id - probe < taken - probe := by
  have hstart := start.toNat_lt
  have hprobe := probe.toNat_lt
  have htaken := taken.toNat_lt
  have hlt := id.toNat_lt
  have hne : id.toNat ≠ taken.toNat := fun h => hne (UInt8.toNat_inj.mp h)
  simp only [UInt8.lt_iff_toNat_lt, UInt8.toNat_sub, UInt8.toNat_add, UInt8.toNat_one] at *
  omega

/-- From behind an id and back to it, all others are left behind. -/
theorem sub_lt_of_return (hid : ¬ id - (taken + 1) < probe - (taken + 1)) (hne : id ≠ taken) :
    id - probe < taken - probe := by
  have hprobe := probe.toNat_lt
  have htaken := taken.toNat_lt
  have hlt := id.toNat_lt
  have hne : id.toNat ≠ taken.toNat := fun h => hne (UInt8.toNat_inj.mp h)
  simp only [UInt8.lt_iff_toNat_lt, UInt8.toNat_sub, UInt8.toNat_add, UInt8.toNat_one] at *
  omega

end Way

variable {p : Pool} {calls : List Operation} {m n : Nat} {id other start : UInt8}

/-- Nothing is left behind by a probe that has not moved. -/
theorem swept_self (probe : UInt8) (met : UInt8 → Prop) : Swept probe probe met := by
  refine Or.inr fun id hid => absurd hid ?_
  rw [UInt8.sub_self, UInt8.not_lt]
  exact UInt8.zero_le

theorem Swept.mono {probe : UInt8} {met met' : UInt8 → Prop} (h : Swept start probe met)
    (hmet : ∀ id, met id → met' id) : Swept start probe met' :=
  h.imp (fun hall id => hmet id (hall id)) fun hleft id hid => hmet id (hleft id hid)

theorem nextFree?_of_allocate? {allocated : Logged (UInt8 × Pool)}
    (h : p.allocate? = some allocated) :
    p.nextFree? = some allocated.value.1 ∧ allocated.value.2.probe = allocated.value.1 + 1 := by
  rw [allocate?, Option.map_eq_some_iff] at h
  rcases h with ⟨fresh, hfresh, rfl⟩
  exact ⟨hfresh, rfl⟩

/-- Handing out an id moves the probe on. The ids that it leaves behind are in use, and
    so is the one that it hands out. -/
theorem swept_allocate? {allocated : Logged (UInt8 × Pool)} {met : UInt8 → Prop}
    (h : Swept start p.probe met) (hallocate : p.allocate? = some allocated)
    (hbefore : ∀ id, p.contains id = true → met id) (htaken : met allocated.value.1) :
    Swept start allocated.value.2.probe met := by
  rcases nextFree?_of_allocate? hallocate with ⟨hnext, hprobe⟩
  rcases h with hall | hleft
  · exact Or.inl hall
  · by_cases hround : allocated.value.1 - start < p.probe - start
    · -- The probe has gone past its start, so it has left all ids behind.
      refine Or.inl fun id => ?_
      by_cases hid : id - start < p.probe - start
      · exact hleft id hid
      · exact hbefore id (contains_of_sub_lt hnext (sub_lt_of_round hround hid))
    · -- It has not come round, so an id behind it was left behind before or just now.
      refine Or.inr fun id hpassed => ?_
      rw [hprobe] at hpassed
      by_cases hid : id - start < p.probe - start
      · exact hleft id hid
      · by_cases heq : id = allocated.value.1
        · rw [heq]
          exact htaken
        · exact hbefore id (contains_of_sub_lt hnext (sub_lt_of_passed hid hpassed heq))

/-- What is met in use before or behind a call adds to what has been met, and then the
    call keeps it that all ids are met which the probe leaves behind. -/
theorem swept_after {met : UInt8 → Prop} (c : Operation) (h : Swept start p.probe met)
    (hbefore : ∀ id, p.contains id = true → met id)
    (hafter : ∀ id, (p.after c).contains id = true → met id) :
    Swept start (p.after c).probe met := by
  cases c with
  | allocate =>
      rw [after] at hafter ⊢
      cases hallocate : p.allocate? with
      | none => exact h
      | some allocated =>
          rw [hallocate] at hafter
          refine swept_allocate? h hallocate hbefore (hafter _ ?_)
          rw [(contains_allocate? hallocate).2, BEq.rfl, Bool.or_true]
  | release id =>
      -- Only handing out moves the probe.
      have hprobe : (p.release id).value.probe = p.probe := by
        rw [release]
        split <;> rfl
      rw [after, hprobe]
      exact h
  | reserve id => exact h
  | retain keep => exact h

theorem afterCalls_take_succ {c : Operation} (h : calls[n]? = some c) :
    p.afterCalls (calls.take (n + 1)) = (p.afterCalls (calls.take n)).after c := by
  rw [List.take_add_one, h, afterCalls, List.foldl_append]
  rfl

/-- Behind a call that hands out an id, all ids have been in use at some moment since then
    which the probe has left behind since then. -/
theorem swept_of_handsOut (h : p.HandsOut calls m id) (hmn : m < n) (hn : n ≤ calls.length) :
    Swept (id + 1) (p.afterCalls (calls.take n)).probe (p.InUseBetween calls m n) := by
  induction n, hmn using Nat.le_induction with
  | base =>
      rcases h with ⟨hcall, hid⟩
      rcases Option.map_eq_some_iff.mp hid with ⟨allocated, hallocate, rfl⟩
      -- Right behind that call the probe is where the way begins.
      rw [afterCalls_take_succ hcall, after, hallocate, (nextFree?_of_allocate? hallocate).2]
      exact swept_self _ _
  | succ n hmn ih =>
      have hcall : calls[n]? = some calls[n] := List.getElem?_eq_getElem hn
      -- What was met up to here has been met one call later too.
      have hswept : Swept (id + 1) (p.afterCalls (calls.take n)).probe
          (p.InUseBetween calls m (n + 1)) :=
        (ih (Nat.le_of_succ_le hn)).mono fun id ⟨k, hmk, hkn, hid⟩ =>
          ⟨k, hmk, Nat.le_succ_of_le hkn, hid⟩
      rw [afterCalls_take_succ hcall]
      refine swept_after _ hswept (fun id hid => ?_) fun id hid => ?_
      · exact ⟨n, hmn, Nat.le_succ n, hid⟩
      · rw [← afterCalls_take_succ hcall] at hid
        exact ⟨n + 1, Nat.lt_succ_of_lt hmn, Nat.le_refl _, hid⟩

/-- In any run of calls on any pool, if two of the calls hand out the same id, every other
    id is in use at some moment from right behind the first of them to right behind the
    second. -/
theorem contains_between_of_handsOut (p : Pool) (calls : List Operation) (m n : Nat) (id : UInt8)
    (hmn : m < n) (hfirst : p.HandsOut calls m id) (hsecond : p.HandsOut calls n id) :
    ∀ other, other ≠ id →
      ∃ k, m < k ∧ k ≤ n + 1 ∧ (p.afterCalls (calls.take k)).contains other = true := by
  intro other hother
  rcases hsecond with ⟨hcall, hid⟩
  rcases Option.map_eq_some_iff.mp hid with ⟨allocated, hallocate, rfl⟩
  have hn : n < calls.length := (List.getElem?_eq_some_iff.mp hcall).1
  -- The probe may have left the other id behind already.
  have hswept : (p.InUseBetween calls m n other) ∨
      other - (p.afterCalls (calls.take n)).probe <
        allocated.value.1 - (p.afterCalls (calls.take n)).probe := by
    rcases swept_of_handsOut hfirst hmn (Nat.le_of_lt hn) with hall | hleft
    · exact Or.inl (hall other)
    · by_cases hid : other - (allocated.value.1 + 1) <
          (p.afterCalls (calls.take n)).probe - (allocated.value.1 + 1)
      · exact Or.inl (hleft other hid)
      · exact Or.inr (sub_lt_of_return hid hother)
  rcases hswept with ⟨k, hmk, hkn, hid⟩ | hway
  · exact ⟨k, hmk, Nat.le_succ_of_le hkn, hid⟩
  · -- Otherwise it is on the way that the second call still has to go.
    exact ⟨n, hmn, Nat.le_succ n, contains_of_sub_lt (nextFree?_of_allocate? hallocate).1 hway⟩

/-- All ids but 7 and 9 are in use. The two are handed out, 7 is given back, and it comes
    back at once: 9 was handed out meanwhile, and 3, which was given back and reserved, was
    in use before and after. -/
theorem contains_between_of_two_free :
    ∃ (p : Pool) (calls : List Operation),
      p = ⟨7, .ofList (allIds.filter fun id => id != 7 && id != 9)⟩ ∧
      calls = [.allocate, .allocate, .release 7, .retain (· != 3), .reserve 3, .allocate] ∧
      (∃ k, 0 < k ∧ k ≤ 6 ∧ (p.afterCalls (calls.take k)).contains 3 = true) ∧
      ∃ k, 0 < k ∧ k ≤ 6 ∧ (p.afterCalls (calls.take k)).contains 9 = true := by
  -- The first and the last call hand out 7, so the law is about all other ids.
  have hbetween := contains_between_of_handsOut
    ⟨7, .ofList (allIds.filter fun id => id != 7 && id != 9)⟩
    [.allocate, .allocate, .release 7, .retain (· != 3), .reserve 3, .allocate] 0 5 7
    (by decide) ⟨rfl, by decide +kernel⟩ ⟨rfl, by decide +kernel⟩
  exact ⟨_, _, rfl, rfl, hbetween 3 (by decide), hbetween 9 (by decide)⟩

end Pool

end TileTriggers
