import TileTriggers.Map.File
import TileTriggers.Proofs.Payload.Correspondence

/-!
# The Script Section of a Map File

Loading forgives what it finds in the script section, so reading it is no inverse of
writing it: many sections lead to the same scripts. What holds of all of them is that
the scripts break no rule. A single slot is another matter. Its length is all that the
reader of a slot looks at, so that reader does undo the writer of a slot.

Every count and every length of the section fits its bytes because saving asks for
that before it writes.

## Main definitions

* `sectionBytes`: The bytes of the section for some scripts.

## Theorems

* `ScriptSlots.valid_of_mem_scripts`: What is read breaks no rule.
* `Read.inverts_slot`: The reader of a slot.
* `Document.payloadAt_of_valid`: When a payload is refused.
* `Document.mapM_payloadAt_eq_ok_iff`: The payloads that are written.
-/

namespace TileTriggers

namespace ScriptSlots

/-- Whatever the slots of a file hold, the scripts that are read from them break no
    rule. -/
theorem valid_of_mem_results {n : Nat} {c : Cursor} {s : Script}
    (h : .ok s ∈ (read n c).results) : s.Valid := by
  induction n generalizing c with
  | zero => exact absurd h (by simp [read])
  | succ n ih =>
      rw [read] at h
      split at h
      · -- A slot that is cut off holds no script and is the last.
        exact absurd h (by simp)
      · rename_i payload rest hslot
        rw [List.mem_cons] at h
        -- A payload that is a script is one that the writer could have written.
        rcases h with h | h
        · exact (Script.decode_eq_ok_iff.mp h.symm).1
        · exact ih h

theorem valid_of_mem_scripts {c : Cursor} {s : Script} (h : s ∈ (ofCursor c).scripts) :
    s.Valid := by
  rcases List.mem_filterMap.mp h with ⟨result, hresult, hscript⟩
  rw [Fallible.toOption_eq_some.mp hscript, ofCursor] at hresult
  split at hresult
  · exact absurd hresult (by simp)
  · exact valid_of_mem_results hresult

end ScriptSlots

/-- A payload that fits its length is read back from its slot. -/
theorem Read.inverts_slot :
    Inverts slot Document.slotBytes (fun payload => payload.length ≤ maxScriptLength) := by
  refine inverts_bind (fun _ payload => payload) (fun length payload => payload.length = length)
    (inverts_number 2) (fun length _ => inverts_bytes length) ?_ fun payload => ?_
  · rintro length payload - rfl
    rfl
  · constructor
    · intro hlength
      exact ⟨payload.length, Nat.lt_succ_of_le hlength, rfl⟩
    · rintro ⟨length, hlength, rfl⟩
      exact Nat.le_of_lt_succ hlength

/-- The bytes of the script section for some scripts. -/
def sectionBytes (scripts : List Script) : List UInt8 :=
  UInt8.ofNat scripts.length :: (scripts.map Script.bytes).flatMap Document.slotBytes

/-- The byte that counts the scripts tells how many there are. -/
theorem toNat_ofNat_of_le_maxScripts {n : Nat} (h : n ≤ maxScripts) :
    (UInt8.ofNat n).toNat = n :=
  UInt8.toNat_ofNat_of_lt' (Nat.lt_succ_of_le h)

/-- The payload of a script that breaks no rule is refused for its length only. -/
theorem Document.payloadAt_of_valid {s : Script} (h : s.Valid) (index : Nat) :
    payloadAt s index =
      if maxScriptLength < s.bytes.length then
        .error (.capacity (.scriptLength index s.bytes.length))
      else .ok s.bytes := by
  rw [payloadAt, Script.encode_of_valid h]

/-- Payloads are written exactly when each fits its slot, and they are the bytes of the
    scripts. -/
theorem Document.mapM_payloadAt_eq_ok_iff {scripts : List Script}
    {payloads : List (List UInt8)} (index : Nat)
    (hvalid : ∀ s ∈ scripts, s.Valid) :
    (scripts.zipIdx index).mapM (fun p => payloadAt p.1 p.2) = .ok payloads ↔
      (∀ s ∈ scripts, s.bytes.length ≤ maxScriptLength) ∧ payloads = scripts.map Script.bytes := by
  induction scripts generalizing index payloads with
  | nil => simp [pure, Except.pure, eq_comm]
  | cons s scripts ih =>
      rw [List.forall_mem_cons] at hvalid
      -- The script breaks no rule, so the length is the only thing to be checked.
      have hpayload : ∀ payload, payloadAt s index = .ok payload ↔
          s.bytes.length ≤ maxScriptLength ∧ payload = s.bytes := by
        intro payload
        rw [payloadAt_of_valid hvalid.1]
        split_ifs with hlong
        · simp only [false_iff]
          omega
        · rw [Except.ok.injEq, eq_comm]
          exact ⟨fun h => ⟨by omega, h⟩, And.right⟩
      rw [List.zipIdx_cons, List.mapM_cons, Fallible.bind_eq_ok]
      simp only [hpayload, Fallible.bind_eq_ok, ih (index + 1) hvalid.2, List.forall_mem_cons]
      constructor
      · rintro ⟨payload, ⟨hshort, rfl⟩, rest, ⟨hall, rfl⟩, hpayloads⟩
        exact ⟨⟨hshort, hall⟩, (Except.ok.inj hpayloads).symm⟩
      · rintro ⟨⟨hshort, hall⟩, rfl⟩
        exact ⟨_, ⟨hshort, rfl⟩, _, ⟨hall, rfl⟩, rfl⟩

end TileTriggers
