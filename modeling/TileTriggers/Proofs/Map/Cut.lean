import TileTriggers.Proofs.Map.Slots
import TileTriggers.Proofs.Payload.Delimited
import Mathlib.Data.Nat.Count

/-!
# How a Script Section Is Cut into Slots

Behind the byte that counts them, the slots of a script section follow one another, each
telling its own length. Whatever bytes stand there, they begin with some number of
complete slots, no more than were counted, and what is left then is either behind the
last slot that was counted or no complete slot. `SlotCut` says this without reading
anything, so it can be asked of any bytes, and it can be asked before it is known what
the payloads are.

There is one such cut and only one. A slot begins with its length, so no slot is the
beginning of another. This is also why a payload that cannot be read does no harm to the
slots behind it: where they begin was settled before anybody looked at the payload.

## Main definitions

* `SlotCut`: Complete slots and what is left behind them.
* `wholeSlots`: How many slots are left whole when the data is broken off.

## Theorems

* `slotBytes_append_inj`: A slot is told apart from what follows it.
* `slotCut_cons_iff`: The first slot and the cut of the rest.
* `slotCut_flatMap`: Slots with nothing behind them.
* `exists_slotCut`, `SlotCut.unique`: Every data is cut in one way.
* `exists_slotCut_take`: The cut of slots that are broken off.
* `ScriptSlots.read_of_slotCut_full`, `ScriptSlots.read_of_slotCut_short`: What the slots
  of a cut are read as.
-/

namespace TileTriggers

open Document (slotBytes)

/-- Data that is cut into the payloads of complete slots and what is left. There are no
    more slots than were counted, and if there are less, then because what is left does
    not begin with another one. -/
structure SlotCut (count : Nat) (data : List UInt8) (payloads : List (List UInt8))
    (left : List UInt8) : Prop where
  eq_append : data = payloads.flatMap slotBytes ++ left
  fits : ∀ payload ∈ payloads, payload.length ≤ maxScriptLength
  length_le : payloads.length ≤ count
  maximal : payloads.length < count → ∀ payload rest, payload.length ≤ maxScriptLength →
    left ≠ slotBytes payload ++ rest

/-- A slot is read where it stands, and the cursor goes on behind it. -/
theorem Read.slot_append {payload : List UInt8} (h : payload.length ≤ maxScriptLength)
    (position : Nat) (rest : List UInt8) :
    slot ⟨position, slotBytes payload ++ rest⟩ =
      .ok (payload, ⟨position + (slotBytes payload).length, rest⟩) :=
  (inverts_slot _ _ _).mpr ⟨h, rfl, rfl⟩

/-- Where no complete slot is, the data ends too early, and nothing else is wrong. -/
theorem Read.slot_of_ne_append {c : Cursor}
    (h : ∀ payload rest, payload.length ≤ maxScriptLength → c.unread ≠ slotBytes payload ++ rest) :
    ∃ offset, slot c = .error (.unexpectedEnd offset) := by
  -- Both parts of a slot are read without looking at what the bytes are.
  have hsequential : Sequential FormatError.Short (fun _ _ => False) slot :=
    (sequential_number short_unexpectedEnd 2).bind fun _ length _ _ =>
      sequential_bytes short_unexpectedEnd length
  rcases c.exists_within with ⟨data, hc⟩
  cases hread : slot c with
  | ok p =>
      rcases p with ⟨payload, c'⟩
      rcases (inverts_slot c payload c').mp hread with ⟨hfits, hunread, -⟩
      exact absurd hunread (h payload c'.unread hfits)
  | error e =>
      rcases hsequential.error data c e hc hread with ⟨offset, -, rfl⟩ | ⟨hwrong, -⟩
      · exact ⟨offset, rfl⟩
      · exact hwrong.elim

/-- No slot is the beginning of another, so a slot is told apart from what follows it. -/
theorem slotBytes_append_inj {payload payload' rest rest' : List UInt8}
    (h : payload.length ≤ maxScriptLength) (h' : payload'.length ≤ maxScriptLength)
    (heq : slotBytes payload ++ rest = slotBytes payload' ++ rest') :
    payload = payload' ∧ rest = rest' := by
  -- Both sides are the same data, and its first slot is read in one way.
  have hread := Read.slot_append h 0 rest
  have hread' := Read.slot_append h' 0 rest'
  rw [heq, hread'] at hread
  have hpair := Except.ok.inj hread
  have hpayload : payload' = payload := congrArg Prod.fst hpair
  have hrest : rest' = rest := congrArg (fun p => p.2.unread) hpair
  exact ⟨hpayload.symm, hrest.symm⟩

/-- The first slot of a cut, and the cut of what follows it. -/
theorem slotCut_cons_iff {n : Nat} {data payload left : List UInt8}
    {payloads : List (List UInt8)} :
    SlotCut (n + 1) (slotBytes payload ++ data) (payload :: payloads) left ↔
      payload.length ≤ maxScriptLength ∧ SlotCut n data payloads left := by
  constructor
  · -- The first slot is the same on both sides, and the counts go down by one.
    rintro ⟨heq, hfits, hlength, hmaximal⟩
    rw [List.forall_mem_cons] at hfits
    rw [List.flatMap_cons, List.append_assoc, List.append_cancel_left_eq] at heq
    rw [List.length_cons] at hlength hmaximal
    exact ⟨hfits.1, heq, hfits.2, by omega, fun hlt => hmaximal (by omega)⟩
  · rintro ⟨hpayload, heq, hfits, hlength, hmaximal⟩
    refine ⟨?_, List.forall_mem_cons.mpr ⟨hpayload, hfits⟩, ?_, fun hlt => hmaximal ?_⟩
    · rw [List.flatMap_cons, List.append_assoc, ← heq]
    · rw [List.length_cons]
      omega
    · rw [List.length_cons] at hlt
      omega

/-- No slots at all, where none was counted or none is complete. -/
theorem slotCut_nil {count : Nat} {data : List UInt8}
    (h : 0 < count → ∀ payload rest, payload.length ≤ maxScriptLength →
      data ≠ slotBytes payload ++ rest) : SlotCut count data [] data :=
  ⟨rfl, by simp, Nat.zero_le _, h⟩

/-- Slots with nothing behind them, all of which were counted. -/
theorem slotCut_flatMap {payloads : List (List UInt8)}
    (hfits : ∀ payload ∈ payloads, payload.length ≤ maxScriptLength) :
    SlotCut payloads.length (payloads.flatMap slotBytes) payloads [] :=
  ⟨(List.append_nil _).symm, hfits, Nat.le_refl _, fun h => absurd h (Nat.lt_irrefl _)⟩

theorem exists_slotCut (count : Nat) (data : List UInt8) :
    ∃ payloads left, SlotCut count data payloads left := by
  -- Cut off slots as long as one is there and more were counted.
  induction count generalizing data with
  | zero => exact ⟨[], data, slotCut_nil fun h => absurd h (Nat.lt_irrefl 0)⟩
  | succ n ih =>
      -- Without a complete slot the cut ends here, which is what makes it maximal.
      by_cases hslot : ∃ payload rest,
          payload.length ≤ maxScriptLength ∧ data = slotBytes payload ++ rest
      · rcases hslot with ⟨payload, rest, hfits, rfl⟩
        rcases ih rest with ⟨payloads, left, hcut⟩
        exact ⟨payload :: payloads, left, slotCut_cons_iff.mpr ⟨hfits, hcut⟩⟩
      · refine ⟨[], data, slotCut_nil fun _ payload rest hfits heq => ?_⟩
        exact hslot ⟨payload, rest, hfits, heq⟩

namespace SlotCut

variable {count : Nat} {data left : List UInt8} {payloads : List (List UInt8)}

/-- With no slots cut off, everything is left. -/
theorem left_eq_of_nil (h : SlotCut count data [] left) : left = data :=
  h.eq_append.symm

/-- A cut with a first slot. -/
theorem exists_of_cons {payload : List UInt8} (h : SlotCut count data (payload :: payloads) left) :
    ∃ n rest, count = n + 1 ∧ data = slotBytes payload ++ rest ∧
      payload.length ≤ maxScriptLength ∧ SlotCut n rest payloads left := by
  -- The data begins with the first slot of the cut, and one slot at least was counted.
  have hdata : data = slotBytes payload ++ (payloads.flatMap slotBytes ++ left) := by
    rw [h.eq_append, List.flatMap_cons, List.append_assoc]
  have hcount := h.length_le
  rw [List.length_cons] at hcount
  rcases Nat.exists_eq_add_of_le' (Nat.lt_of_lt_of_le (Nat.succ_pos _) hcount) with ⟨n, rfl⟩
  rw [hdata] at h
  exact ⟨n, _, rfl, hdata, slotCut_cons_iff.mp h⟩

/-- Data is cut in one way only. -/
theorem unique {left' : List UInt8} {payloads' : List (List UInt8)}
    (h : SlotCut count data payloads left) (h' : SlotCut count data payloads' left') :
    payloads' = payloads ∧ left' = left := by
  -- The first cut is followed. At each slot of it the other one has to cut as well.
  induction payloads generalizing count data payloads' with
  | nil =>
      have hleft := h.left_eq_of_nil
      cases payloads' with
      | nil => exact ⟨rfl, h'.left_eq_of_nil.trans hleft.symm⟩
      | cons payload payloads' =>
          -- The second cut begins with a slot that the first one has not missed.
          rcases h'.exists_of_cons with ⟨n, rest, rfl, hdata, hfits, -⟩
          exact absurd (hleft.trans hdata) (h.maximal (Nat.succ_pos n) payload rest hfits)
  | cons payload payloads ih =>
      rcases h.exists_of_cons with ⟨n, rest, rfl, hdata, hfits, hcut⟩
      cases payloads' with
      | nil =>
          have hleft' := h'.left_eq_of_nil
          exact absurd (hleft'.trans hdata) (h'.maximal (Nat.succ_pos n) payload rest hfits)
      | cons payload' payloads' =>
          rcases h'.exists_of_cons with ⟨n', rest', hcount, hdata', hfits', hcut'⟩
          -- Both begin with a complete slot of the same data, so it is the same slot.
          rcases slotBytes_append_inj hfits' hfits (hdata'.symm.trans hdata) with ⟨rfl, rfl⟩
          have hn : n' = n := by omega
          rw [hn] at hcut'
          rcases ih hcut hcut' with ⟨rfl, rfl⟩
          exact ⟨rfl, rfl⟩

end SlotCut

section Broken

variable {start k : Nat} {payload : List UInt8} {payloads : List (List UInt8)}

/-- How many slots lie wholly within the first `k` bytes of data in which they begin at
    some place. A slot does when the slots up to it, and it among them, end there. -/
def wholeSlots (start : Nat) (payloads : List (List UInt8)) (k : Nat) : Nat :=
  Nat.count (fun i => start + ((payloads.take (i + 1)).flatMap slotBytes).length ≤ k)
    payloads.length

theorem wholeSlots_cons_of_le (h : start + (slotBytes payload).length ≤ k) :
    wholeSlots start (payload :: payloads) k =
      wholeSlots (start + (slotBytes payload).length) payloads k + 1 := by
  have hfirst : start + (((payload :: payloads).take (0 + 1)).flatMap slotBytes).length ≤ k := by
    simpa using h
  rw [wholeSlots, List.length_cons, Nat.count_succ', if_pos hfirst, wholeSlots]
  simp only [List.take_succ_cons, List.flatMap_cons, List.length_append, Nat.add_assoc]

theorem wholeSlots_cons_of_lt (h : k < start + (slotBytes payload).length) :
    wholeSlots start (payload :: payloads) k = 0 := by
  -- Every slot ends behind the first one, so none lies within.
  refine Nat.count_iff_forall_not.mpr fun i _ hle => ?_
  rw [List.take_succ_cons, List.flatMap_cons, List.length_append] at hle
  omega

/-- A slot that is broken off does not begin with a complete one. -/
theorem take_slotBytes_ne_append {other rest : List UInt8} {m : Nat}
    (hpayload : payload.length ≤ maxScriptLength) (hother : other.length ≤ maxScriptLength)
    (hm : m < (slotBytes payload).length) :
    (slotBytes payload).take m ≠ slotBytes other ++ rest := by
  intro heq
  -- Put back what was broken off. Then two slots begin the same data, so they are one.
  have hwhole : slotBytes payload ++ [] =
      slotBytes other ++ (rest ++ (slotBytes payload).drop m) := by
    rw [List.append_nil, ← List.append_assoc, ← heq, List.take_append_drop]
  have hsame : payload = other := (slotBytes_append_inj hpayload hother hwhole).1
  have hlength := congrArg List.length heq
  rw [← hsame, List.length_take, List.length_append] at hlength
  omega

/-- Slots that are broken off somewhere are cut into those that are wholly there. -/
theorem exists_slotCut_take (hfits : ∀ payload ∈ payloads, payload.length ≤ maxScriptLength)
    (hstart : start ≤ k) (hk : k < start + (payloads.flatMap slotBytes).length) :
    wholeSlots start payloads k < payloads.length ∧
      ∃ left, SlotCut payloads.length ((payloads.flatMap slotBytes).take (k - start))
        (payloads.take (wholeSlots start payloads k)) left := by
  -- Each slot that is there moves `start` behind it, up to the first that is broken off.
  induction payloads generalizing start with
  | nil =>
      rw [List.flatMap_nil, List.length_nil] at hk
      omega
  | cons payload payloads ih =>
      rw [List.forall_mem_cons] at hfits
      rw [List.flatMap_cons, List.length_append] at hk
      rw [List.flatMap_cons, List.length_cons]
      by_cases hfirst : start + (slotBytes payload).length ≤ k
      · -- The first slot is there, and the others begin behind it.
        rcases ih hfits.2 hfirst (by omega) with ⟨hlt, left, hcut⟩
        have htake : (slotBytes payload ++ payloads.flatMap slotBytes).take (k - start) =
            slotBytes payload ++
              (payloads.flatMap slotBytes).take (k - (start + (slotBytes payload).length)) := by
          rw [List.take_append, List.take_of_length_le (by omega), Nat.sub_sub]
        rw [wholeSlots_cons_of_le hfirst, htake, List.take_succ_cons]
        exact ⟨by omega, left, slotCut_cons_iff.mpr ⟨hfits.1, hcut⟩⟩
      · -- The first slot is broken off, and so no slot is there.
        have hbroken : k - start < (slotBytes payload).length := by omega
        have htake : (slotBytes payload ++ payloads.flatMap slotBytes).take (k - start) =
            (slotBytes payload).take (k - start) :=
          List.take_append_of_le_length (Nat.le_of_lt hbroken)
        rw [wholeSlots_cons_of_lt (by omega), htake, List.take_zero]
        exact ⟨Nat.succ_pos _, _, slotCut_nil fun _ _ _ hother =>
          take_slotBytes_ne_append hfits.1 hother hbroken⟩

end Broken

namespace ScriptSlots

variable {count : Nat} {c : Cursor} {left : List UInt8} {payloads : List (List UInt8)}

/-- As many slots as were counted. What is left stands behind the last of them. -/
theorem read_of_slotCut_full (h : SlotCut count c.unread payloads left)
    (hfull : payloads.length = count) :
    read count c = ⟨payloads.map Script.decode, left.length⟩ := by
  induction payloads generalizing count c with
  | nil =>
      rw [← hfull, h.left_eq_of_nil]
      rfl
  | cons payload payloads ih =>
      rcases h.exists_of_cons with ⟨n, rest, rfl, hunread, hfits, hcut⟩
      rcases c with ⟨position, unread⟩
      -- A slot is read and the cursor stands behind it, where the cut of the rest begins.
      rw [show unread = slotBytes payload ++ rest from hunread, read, Read.slot_append hfits]
      have hn : payloads.length = n := by simpa using hfull
      simp only [ih (c := ⟨_, rest⟩) hcut hn, List.map_cons]

/-- Fewer slots than were counted. The next one is cut off, and nothing is left then. -/
theorem read_of_slotCut_short (h : SlotCut count c.unread payloads left)
    (hshort : payloads.length < count) :
    ∃ offset, read count c =
      ⟨payloads.map Script.decode ++ [.error (.unexpectedEnd offset)], 0⟩ := by
  induction payloads generalizing count c with
  | nil =>
      -- One more slot was counted, but none begins here.
      have hmissing := h.maximal hshort
      rw [h.left_eq_of_nil] at hmissing
      rcases Read.slot_of_ne_append hmissing with ⟨offset, herror⟩
      cases count with
      | zero => exact absurd hshort (Nat.lt_irrefl 0)
      | succ n =>
          refine ⟨offset, ?_⟩
          rw [read, herror]
          rfl
  | cons payload payloads ih =>
      rcases h.exists_of_cons with ⟨n, rest, rfl, hunread, hfits, hcut⟩
      rcases c with ⟨position, unread⟩
      -- With a slot at the front the next one that is missing lies behind it.
      have hn : payloads.length < n := by simpa using hshort
      rcases ih (c := ⟨position + (slotBytes payload).length, rest⟩) hcut hn with ⟨offset, hread⟩
      refine ⟨offset, ?_⟩
      rw [show unread = slotBytes payload ++ rest from hunread, read, Read.slot_append hfits]
      simp only [hread, List.map_cons, List.cons_append]

end ScriptSlots

end TileTriggers
