import TileTriggers.Proofs.Map.Normal

/-!
# The Numbers of Scripts in Warnings

Two sorts of warnings name a script of the file by its number, and they do not count the
same. A script that is lost is named by the slot that it was in. A script whose spawn
entry clashes with a tile is named by its place among the scripts that are left. Both are
counted from zero, and as long as nothing is lost the two numbers are the same. Behind a
slot that holds no script, all clashes are named by a number that is too small for the
slot, and it may be the number of a slot that was dropped.

How much too small it is can be told: a clash in some slot has the number of the slots
before it that hold scripts.

## Main definitions

* `NumbersScripts`: What the warnings say of the slots.

## Theorems

* `getElem?_filterMap_iff`: Where an element that is kept was before.
* `mem_rejections_iff`: The payloads that are no scripts, with their slots.
* `length_acceptedScripts_eq_iff`: When nothing is lost before a slot.
* `Document.warnings_by_slot`: What the warnings of a loaded map say of its file.
-/

namespace TileTriggers

/-- An element that is kept was found at some position, and its new position is the number
    of elements before it that are kept. -/
theorem getElem?_filterMap_iff {α β : Type} {f : α → Option β} {as : List α} {i : Nat} {b : β} :
    (as.filterMap f)[i]? = some b ↔
      ∃ j a, as[j]? = some a ∧ f a = some b ∧ i = ((as.take j).filterMap f).length := by
  induction as generalizing i with
  | nil => simp
  | cons a as ih =>
      -- Either the first element is meant or one behind it.
      rw [← Nat.or_exists_add_one]
      simp only [List.getElem?_cons_zero, List.getElem?_cons_succ, List.take_zero,
        List.take_succ_cons, Option.some.injEq, exists_eq_left', List.filterMap_nil,
        List.length_nil]
      cases hf : f a with
      | none => simp only [List.filterMap_cons_none hf, ih, reduceCtorEq, false_and, false_or]
      | some c =>
          simp only [List.filterMap_cons_some hf, List.length_cons]
          cases i with
          | zero => simp
          | succ i => simp [ih]

/-- The warnings about payloads that are no scripts name their slots. -/
theorem mem_rejections_iff {first index : Nat} {payloads : List (List UInt8)}
    {error : FormatError} :
    .corruptScript index error ∈ rejections first payloads ↔
      ∃ slot payload, payloads[slot]? = some payload ∧ Script.decode payload = .error error ∧
        index = first + slot := by
  induction payloads generalizing first with
  | nil => simp [rejections]
  | cons payload payloads ih =>
      have hshift : ∀ slot, first + 1 + slot = first + (slot + 1) := fun slot => by omega
      rw [rejections, ← Nat.or_exists_add_one]
      simp only [List.getElem?_cons_zero, List.getElem?_cons_succ, Option.some.injEq,
        exists_eq_left', Nat.add_zero]
      -- The first slot is told or not, and those behind it have their numbers shifted by one.
      cases Script.decode payload with
      | ok s => simp only [ih, hshift, reduceCtorEq, false_and, false_or]
      | error e =>
          simp only [List.mem_cons, LoadWarning.corruptScript.injEq, ih, hshift,
            Except.error.injEq]
          rw [and_comm (a := index = first), eq_comm (a := error)]

/-- All slots before some slot hold scripts exactly when there are as many scripts. -/
theorem length_acceptedScripts_eq_iff {payloads : List (List UInt8)} :
    (acceptedScripts payloads).length = payloads.length ↔
      ∀ payload ∈ payloads, ∃ s, Script.decode payload = .ok s := by
  rw [acceptedScripts, List.filterMap_length_eq_length]
  simp only [Option.isSome_iff_exists, Fallible.toOption_eq_some]

/-- What the warnings of a map say of the slots of its file. -/
structure NumbersScripts (objectIds : List UInt8) (count : Nat) (payloads : List (List UInt8))
    (warnings : List LoadWarning) : Prop where
  /-- A slot that is told to be corrupt holds no script, or it is the one that is broken off. -/
  of_corrupt : ∀ index error, .corruptScript index error ∈ warnings →
    (∃ payload, payloads[index]? = some payload ∧ Script.decode payload = .error error) ∨
      index = payloads.length ∧ payloads.length < count ∧ ∃ offset, error = .unexpectedEnd offset
  /-- Every slot that holds no script is told. -/
  of_error : ∀ slot payload error, payloads[slot]? = some payload →
    Script.decode payload = .error error → .corruptScript slot error ∈ warnings
  /-- So is the slot that is broken off. -/
  of_short : payloads.length < count →
    ∃ offset, .corruptScript payloads.length (.unexpectedEnd offset) ∈ warnings
  /-- A clash is one of a tile with a script in some slot, and its number is the number of
      scripts in the slots before. -/
  conflict_iff : ∀ index id, .spawnIdConflict index id ∈ warnings ↔
    id ∈ objectIds ∧ ∃ slot payload s, payloads[slot]? = some payload ∧
      Script.decode payload = .ok s ∧ id ∈ s.spawnIds ∧
      index = (acceptedScripts (payloads.take slot)).length
  /-- This is the number of the slot exactly when all slots before it hold scripts. -/
  same_iff : ∀ slot ≤ payloads.length, (acceptedScripts (payloads.take slot)).length = slot ↔
    ∀ payload ∈ payloads.take slot, ∃ s, Script.decode payload = .ok s

section TellsEnd

variable {count index : Nat} {payloads : List (List UInt8)} {left : List UInt8}
  {told : List LoadWarning}

/-- Of the end of a section only the slot that is broken off is told to be corrupt. -/
theorem TellsEnd.of_corrupt (h : TellsEnd count payloads left told)
    (hcount : payloads.length ≤ count) {error : FormatError}
    (hmem : .corruptScript index error ∈ told) :
    index = payloads.length ∧ payloads.length < count ∧
      ∃ offset, error = .unexpectedEnd offset := by
  rcases Nat.lt_or_eq_of_le hcount with hshort | hfull
  · rcases h.short hshort with ⟨offset, htold⟩
    rw [htold, List.mem_singleton, LoadWarning.corruptScript.injEq] at hmem
    exact ⟨hmem.1, hshort, offset, hmem.2⟩
  · rw [h.full hfull] at hmem
    -- With all slots there, at most bytes behind them are told.
    split_ifs at hmem <;> simp at hmem

theorem TellsEnd.conflict_notMem (h : TellsEnd count payloads left told)
    (hcount : payloads.length ≤ count) (id : UInt8) : .spawnIdConflict index id ∉ told := by
  rcases Nat.lt_or_eq_of_le hcount with hshort | hfull
  · rcases h.short hshort with ⟨offset, htold⟩
    simp [htold]
  · rw [h.full hfull]
    split_ifs <;> simp

end TellsEnd

namespace Document

theorem mem_conflicts_iff {ids : List UInt8} {scripts : List Script} {index : Nat} {id : UInt8} :
    .spawnIdConflict index id ∈ (scripts.mapIdx (spawnConflicts (.ofList ids))).flatten ↔
      id ∈ ids ∧ ∃ s, scripts[index]? = some s ∧ id ∈ s.spawnIds := by
  rw [spawnConflicts_ofList, List.mem_flatten]
  constructor
  · rintro ⟨told, htold, hmem⟩
    -- The number of a warning is the position at which the script was found.
    rcases List.mem_mapIdx.mp htold with ⟨i, hi, rfl⟩
    rcases List.mem_map.mp hmem with ⟨own, hown, heq⟩
    rcases LoadWarning.spawnIdConflict.inj heq with ⟨rfl, rfl⟩
    rw [List.mem_filter, List.contains_iff_mem] at hown
    exact ⟨hown.2, scripts[i], List.getElem?_eq_getElem hi, hown.1⟩
  · rintro ⟨hid, s, hs, hspawn⟩
    rcases List.getElem?_eq_some_iff.mp hs with ⟨hlt, rfl⟩
    refine ⟨_, List.mem_mapIdx.mpr ⟨index, hlt, rfl⟩, List.mem_map.mpr ⟨id, ?_, rfl⟩⟩
    rw [List.mem_filter, List.contains_iff_mem]
    exact ⟨hspawn, hid⟩

variable {data : List UInt8} {loaded : Logged Document}

/-- What is told of a section that is cut into some payloads. -/
theorem numbersScripts_of_tellsEnd {ids : List UInt8} {count : Nat} {payloads : List (List UInt8)}
    {left : List UInt8} {behind : List LoadWarning} (hcount : payloads.length ≤ count)
    (hend : TellsEnd count payloads left behind) :
    NumbersScripts ids count payloads (rejections 0 payloads ++ behind ++
      ((acceptedScripts payloads).mapIdx (spawnConflicts (.ofList ids))).flatten) where
  of_corrupt index error hmem := by
    -- What is told has three parts, and each sort of warning is found in its own.
    rw [List.mem_append, List.mem_append] at hmem
    rcases hmem with (hrejected | hbehind) | hconflict
    · rcases mem_rejections_iff.mp hrejected with ⟨slot, payload, hslot, hdecode, rfl⟩
      rw [Nat.zero_add]
      exact Or.inl ⟨payload, hslot, hdecode⟩
    · exact Or.inr (hend.of_corrupt hcount hbehind)
    · rcases eq_spawnIdConflict_of_mem hconflict with ⟨_, _, heq⟩
      nomatch heq
  of_error slot payload error hslot hdecode := by
    refine List.mem_append_left _ (List.mem_append_left _ ?_)
    exact mem_rejections_iff.mpr ⟨slot, payload, hslot, hdecode, (Nat.zero_add slot).symm⟩
  of_short hshort := by
    rcases hend.short hshort with ⟨offset, hbehind⟩
    refine ⟨offset, List.mem_append_left _ (List.mem_append_right _ ?_)⟩
    rw [hbehind]
    exact List.mem_singleton_self _
  conflict_iff index id := by
    have hrejected : .spawnIdConflict index id ∉ rejections 0 payloads := by
      intro hmem
      rcases eq_corruptScript_of_mem_rejections hmem with ⟨_, _, heq⟩
      nomatch heq
    -- Only the last part is about clashes, and it goes by the scripts that are left.
    rw [List.mem_append, List.mem_append, or_iff_right (not_or.mpr
      ⟨hrejected, hend.conflict_notMem hcount id⟩), mem_conflicts_iff]
    simp only [acceptedScripts, getElem?_filterMap_iff, Fallible.toOption_eq_some]
    constructor
    · rintro ⟨hid, s, ⟨slot, payload, hslot, hdecode, hindex⟩, hspawn⟩
      exact ⟨hid, slot, payload, s, hslot, hdecode, hspawn, hindex⟩
    · rintro ⟨hid, slot, payload, s, hslot, hdecode, hspawn, hindex⟩
      exact ⟨hid, s, ⟨slot, payload, hslot, hdecode, hindex⟩, hspawn⟩
  same_iff slot hslot := by
    have hlength : (payloads.take slot).length = slot := List.length_take_of_le hslot
    rw [← length_acceptedScripts_eq_iff, hlength]

/-- What the warnings of a loaded map say of its file. A file that ends behind the tiles
    has none. Otherwise a script that is told to be corrupt is named by its slot, and a
    script that spawns an id of a tile is named by its place among the scripts that are
    left, which is the slot only if all slots before it hold scripts. -/
theorem warnings_by_slot (h : load data = .ok loaded) :
    data = loaded.value.grid.bytes ∧ loaded.value.warnings = [] ∨
      ∃ (count : UInt8) (rest : List UInt8) (payloads : List (List UInt8)) (left : List UInt8),
        data = loaded.value.grid.bytes ++ count :: rest ∧
        SlotCut count.toNat rest payloads left ∧
        NumbersScripts loaded.value.grid.objectIds count.toNat payloads loaded.value.warnings := by
  rcases load_eq_ok_iff.mp h with ⟨g, rest, hg, rfl, -⟩
  -- Behind the tiles there is nothing, or a count and the slots.
  cases rest with
  | nil =>
      rcases exists_load_bytes hg with ⟨own, hload, hgrid, -, hwarnings⟩
      rw [List.append_nil, hload, Except.ok.injEq] at h
      rw [← h, hgrid, List.append_nil]
      exact Or.inl ⟨rfl, hwarnings⟩
  | cons count rest =>
      rcases exists_slotCut count.toNat rest with ⟨payloads, left, hcut⟩
      rcases exists_load_of_slotCut hg hcut with ⟨own, behind, hload, hgrid, -, hwarnings, hend⟩
      rw [hload, Except.ok.injEq] at h
      rw [← h, hgrid, hwarnings]
      exact Or.inr ⟨count, rest, payloads, left, rfl, hcut,
        numbersScripts_of_tellsEnd hcut.length_le hend⟩

/-- Two payloads, of which the first is no script and the second brings in an object. -/
def lostScriptPayloads : List (List UInt8) :=
  [[0x62, 0x61, 0x64], [6, 0, 0, 0, 1, 9, 1, 0xa2, 4, 0, 0]]

/-- A map with these payloads and with an object on its only tile that has the same id. -/
def lostScriptFile : List UInt8 :=
  [1, 1, 0x21, 0xa2, 4, 2, 0, 3, 0x62, 0x61, 0x64, 0, 11, 6, 0, 0, 0, 1, 9, 1, 0xa2, 4, 0, 0]

theorem slotCut_lostScriptFile :
    SlotCut 2 (lostScriptFile.drop 6) lostScriptPayloads [] := by
  change SlotCut lostScriptPayloads.length (lostScriptPayloads.flatMap slotBytes) _ _
  exact slotCut_flatMap (by decide)

/-- The warnings of this map. -/
theorem warnings_by_slot_of_lost_script :
    ∃ loaded, load lostScriptFile = .ok loaded ∧
      NumbersScripts [4] 2 lostScriptPayloads loaded.value.warnings := by
  have hload : load lostScriptFile = .ok _ := rfl
  rcases warnings_by_slot hload with
    ⟨hdata, -⟩ | ⟨count, rest, payloads, left, hdata, hcut, hnumbers⟩
  · exact absurd hdata (by decide +kernel)
  · -- The tiles take five bytes, so the count and the slots behind them are known.
    have hsection : [1, 1, 0x21, 0xa2, 4] ++ (2 :: lostScriptFile.drop 6) =
        [1, 1, 0x21, 0xa2, 4] ++ (count :: rest) := hdata
    rcases List.cons.inj (List.append_cancel_left hsection) with ⟨rfl, rfl⟩
    rcases slotCut_lostScriptFile.unique hcut with ⟨rfl, -⟩
    exact ⟨_, hload, hnumbers⟩

/-- One number stands for two scripts. The script in the first slot is told to be corrupt,
    and it is none, and still a clash is told with its number. -/
theorem clash_named_by_lost_slot :
    ∃ loaded, load lostScriptFile = .ok loaded ∧
      .corruptScript 0 (.unknownOperator 0x62 0) ∈ loaded.value.warnings ∧
      .spawnIdConflict 0 4 ∈ loaded.value.warnings ∧
      SlotCut 2 (lostScriptFile.drop 6) lostScriptPayloads [] ∧
      ¬ ∃ payload s, lostScriptPayloads[0]? = some payload ∧ Script.decode payload = .ok s := by
  have hload : load lostScriptFile = .ok _ := rfl
  have hnone : Script.decode [0x62, 0x61, 0x64] = .error (.unknownOperator 0x62 0) := rfl
  refine ⟨_, hload, by decide +kernel, by decide +kernel, slotCut_lostScriptFile, ?_⟩
  rintro ⟨payload, s, ⟨⟩, hdecode⟩
  nomatch hnone.symm.trans hdecode

end Document

end TileTriggers
