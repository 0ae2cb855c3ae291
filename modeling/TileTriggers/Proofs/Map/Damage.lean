import TileTriggers.Proofs.Map.Cut
import TileTriggers.Proofs.Map.Load

/-!
# Damage in the Script Section

What stands behind the tiles of a map file may be anything. The grid does not depend on
it, and of the scripts as many are kept as can be read. The slots are those into which
the bytes are cut, whether or not their payloads are scripts, so a payload that is none
costs that one script, and the others keep their places and their order.

Each loss is told once: a payload that is no script with the position of its slot and
the error in reading it, then a slot that the end of the data breaks off, or else the
bytes that no slot was counted for. Whatever is told after that is about ids that a
tile and a spawn entry share, and is no loss.

## Main definitions

* `rejections`: The warnings about payloads that are no scripts.
* `acceptedScripts`: The scripts of the others.
* `TellsEnd`: The warnings about the end of a section.

## Theorems

* `rejections_eq_nil_iff`: No warning when every payload is a script.
* `acceptedScripts_map_bytes`, `rejections_map_bytes`: The payloads that are written for
  scripts.
* `ScriptSlots.scripts_of_slotCut`: The scripts are those of the payloads.
* `ScriptSlots.exists_warnings_of_slotCut`: What is told about the slots.
* `Document.exists_load_bytes`, `Document.exists_load_of_slotCut`: What a file with
  intact tiles is loaded as.
* `Document.load_despite_damage`: What damage behind the tiles can do, and what not.
-/

namespace TileTriggers

/-- One warning for each payload that is no script, in order. The first payload is that
    of the slot at some position. -/
def rejections (first : Nat) : List (List UInt8) → List LoadWarning
  | [] => []
  | payload :: payloads =>
    match Script.decode payload with
    | .ok _ => rejections (first + 1) payloads
    | .error error => .corruptScript first error :: rejections (first + 1) payloads

/-- The scripts of the payloads that are scripts, in order. -/
def acceptedScripts (payloads : List (List UInt8)) : List Script :=
  payloads.filterMap fun payload => (Script.decode payload).toOption

theorem rejections_eq_nil_iff (first : Nat) {payloads : List (List UInt8)} :
    rejections first payloads = [] ↔ ∀ payload ∈ payloads, ∃ s, Script.decode payload = .ok s := by
  induction payloads generalizing first with
  | nil => simp [rejections]
  | cons payload payloads ih =>
      rw [rejections, List.forall_mem_cons, ← ih (first + 1)]
      -- A payload adds a warning exactly when it is no script.
      cases Script.decode payload with
      | ok s => simp
      | error e => simp

/-- What is told about the end of a script section that is cut into some payloads and what
    is left: the slot that is broken off, or the bytes that no slot was counted for. -/
structure TellsEnd (count : Nat) (payloads : List (List UInt8)) (left : List UInt8)
    (told : List LoadWarning) : Prop where
  short : payloads.length < count →
    ∃ offset, told = [.corruptScript payloads.length (.unexpectedEnd offset)]
  full : payloads.length = count → told = if left = [] then [] else [.trailingBytes left.length]

section Written

variable {scripts : List Script}

/-- The scripts whose bytes are some payloads are those of the payloads. -/
theorem acceptedScripts_map_bytes (hvalid : ∀ s ∈ scripts, s.Valid) :
    acceptedScripts (scripts.map Script.bytes) = scripts := by
  have hdecode : ∀ s ∈ scripts, (Script.decode s.bytes).toOption = some s := fun s hs =>
    Fallible.toOption_eq_some.mpr (Script.decode_eq_ok_iff.mpr ⟨hvalid s hs, rfl⟩)
  rw [acceptedScripts, List.filterMap_map]
  exact (List.filterMap_congr hdecode).trans List.filterMap_some

/-- The bytes of scripts are payloads that are scripts. -/
theorem rejections_map_bytes (hvalid : ∀ s ∈ scripts, s.Valid) :
    rejections 0 (scripts.map Script.bytes) = [] := by
  refine (rejections_eq_nil_iff 0).mpr fun payload hpayload => ?_
  rcases List.mem_map.mp hpayload with ⟨s, hs, rfl⟩
  exact ⟨s, Script.decode_eq_ok_iff.mpr ⟨hvalid s hs, rfl⟩⟩

end Written

/-- The warnings of the slots that hold some payloads are about the payloads that are no
    scripts. -/
theorem filterMap_mapIdx_damage? (first : Nat) (payloads : List (List UInt8)) :
    ((payloads.map Script.decode).mapIdx fun i => ScriptSlots.damage? (i + first)).filterMap id =
      rejections first payloads := by
  induction payloads generalizing first with
  | nil => rfl
  | cons payload payloads ih =>
      rw [List.map_cons, List.mapIdx_cons, List.filterMap_cons, rejections, ← ih (first + 1),
        Nat.zero_add]
      -- The positions of the others shift by the first.
      have hshift : ∀ i, i + 1 + first = i + (first + 1) := fun i => by omega
      simp only [hshift]
      cases Script.decode payload <;> rfl

namespace ScriptSlots

variable {count : UInt8} {data left : List UInt8} {payloads : List (List UInt8)}

/-- The slots of a script section, with what they are read as. -/
theorem ofCursor_cons (position : Nat) (count : UInt8) (data : List UInt8) :
    ofCursor ⟨position, count :: data⟩ = read count.toNat ⟨position + 1, data⟩ := rfl

/-- The scripts that are found are those of the payloads, whatever is left behind them. -/
theorem scripts_of_slotCut (position : Nat) (h : SlotCut count.toNat data payloads left) :
    (ofCursor ⟨position, count :: data⟩).scripts = acceptedScripts payloads := by
  rw [ofCursor_cons]
  rcases Nat.lt_or_eq_of_le h.length_le with hshort | hfull
  · rcases read_of_slotCut_short (c := ⟨position + 1, data⟩) h hshort with ⟨offset, hread⟩
    -- The slot that is broken off adds no script.
    rw [hread, scripts, List.filterMap_append, List.filterMap_map]
    exact List.append_nil _
  · rw [read_of_slotCut_full (c := ⟨position + 1, data⟩) h hfull, scripts, List.filterMap_map]
    rfl

/-- What is told about the slots: first the payloads that are no scripts, and then how
    the section ends. -/
theorem exists_warnings_of_slotCut (position : Nat) (h : SlotCut count.toNat data payloads left) :
    ∃ behind, (ofCursor ⟨position, count :: data⟩).warnings = rejections 0 payloads ++ behind ∧
      TellsEnd count.toNat payloads left behind := by
  have hrejections := filterMap_mapIdx_damage? 0 payloads
  simp only [Nat.add_zero] at hrejections
  rw [ofCursor_cons]
  -- Either a slot was counted that is not there, or all are and something may be left.
  rcases Nat.lt_or_eq_of_le h.length_le with hshort | hfull
  · rcases read_of_slotCut_short (c := ⟨position + 1, data⟩) h hshort with ⟨offset, hread⟩
    refine ⟨[.corruptScript payloads.length (.unexpectedEnd offset)], ?_, fun _ => ⟨offset, rfl⟩,
      fun hfull => absurd hfull (Nat.ne_of_lt hshort)⟩
    -- The slot that is broken off is the last result and the only one added to the payloads.
    rw [hread, warnings, if_pos rfl, List.append_nil, List.mapIdx_append, List.filterMap_append,
      hrejections, List.length_map]
    simp [damage?]
  · refine ⟨if left = [] then [] else [.trailingBytes left.length], ?_,
      fun hshort => absurd hfull (Nat.ne_of_lt hshort), fun _ => rfl⟩
    rw [read_of_slotCut_full (c := ⟨position + 1, data⟩) h hfull, warnings, hrejections]
    simp only [List.length_eq_zero_iff]

end ScriptSlots

namespace Document

/-- The spawn entries of a script whose ids are among some ids on tiles. -/
theorem spawnConflicts_ofList (ids : List UInt8) :
    spawnConflicts (.ofList ids) = fun index s =>
      (s.spawnIds.filter fun id => ids.contains id).map (.spawnIdConflict index) := by
  funext index s
  exact congrArg _ (List.filter_congr fun id _ => IdSet.contains_ofList ids id)

/-- Warnings about shared ids name the position of a script and an id. -/
theorem eq_spawnIdConflict_of_mem {onTiles : IdSet} {scripts : List Script} {w : LoadWarning}
    (h : w ∈ (scripts.mapIdx (spawnConflicts onTiles)).flatten) :
    ∃ index id, w = .spawnIdConflict index id := by
  rcases List.mem_flatten.mp h with ⟨conflicts, hconflicts, hw⟩
  rcases List.mem_mapIdx.mp hconflicts with ⟨index, hlt, rfl⟩
  rcases List.mem_map.mp hw with ⟨id, -, rfl⟩
  exact ⟨index, id, rfl⟩

variable {g : Grid}

/-- A file that ends behind the tiles has no scripts, and nothing is wrong with it. -/
theorem exists_load_bytes (hg : g.Sound) :
    ∃ loaded, load g.bytes = .ok loaded ∧ loaded.value.grid = g ∧ loaded.value.lines = [] ∧
      loaded.value.warnings = [] :=
  ⟨_, load_eq_ok_iff.mpr ⟨g, [], hg, (List.append_nil _).symm, rfl⟩, rfl, rfl, rfl⟩

/-- A file with something behind the tiles, by the cut of what it is. -/
theorem exists_load_of_slotCut (hg : g.Sound) {count : UInt8} {data left : List UInt8}
    {payloads : List (List UInt8)} (hcut : SlotCut count.toNat data payloads left) :
    ∃ loaded behind, load (g.bytes ++ count :: data) = .ok loaded ∧ loaded.value.grid = g ∧
      loaded.value.lines = (acceptedScripts payloads).mapIdx LineReport.ofScript ∧
      loaded.value.warnings = rejections 0 payloads ++ behind ++
        ((acceptedScripts payloads).mapIdx (spawnConflicts (.ofList g.objectIds))).flatten ∧
      TellsEnd count.toNat payloads left behind := by
  -- Lines and warnings are made of the slots, and the slots are known by their cut.
  have hscripts := ScriptSlots.scripts_of_slotCut g.bytes.length hcut
  rcases ScriptSlots.exists_warnings_of_slotCut g.bytes.length hcut with ⟨behind, hwarnings, hend⟩
  refine ⟨_, behind, load_eq_ok_iff.mpr ⟨g, count :: data, hg, rfl, rfl⟩, rfl, ?_, ?_, hend⟩
  · change (ScriptSlots.scripts _).mapIdx LineReport.ofScript = _
    rw [hscripts]
  · change ScriptSlots.warnings _ ++ ((ScriptSlots.scripts _).mapIdx _).flatten = _
    rw [hscripts, hwarnings]

/-- A file is loaded exactly when it begins with the bytes of a grid that a map can have,
    and then the grid is that one, whatever follows. If nothing follows, there are no
    scripts, and nothing is told. Otherwise the first byte counts the slots into which
    the rest is cut, and there is one such cut. The lines are the scripts among the
    payloads, in order. What is told begins with the payloads that are no scripts, each
    with the position of its slot and why it is none; then follow the slot that is
    broken off, if there are less slots than were counted, or else the bytes behind the
    last slot, if there are any; and all the rest is about shared ids. -/
theorem load_despite_damage :
    (∀ data : List UInt8, (∃ loaded, load data = .ok loaded) ↔
      ∃ (g : Grid) (rest : List UInt8), g.Sound ∧ data = g.bytes ++ rest) ∧
    ∀ (g : Grid) (rest : List UInt8), g.Sound →
      ∃ loaded, load (g.bytes ++ rest) = .ok loaded ∧ loaded.value.grid = g ∧
        (rest = [] → loaded.value.lines = [] ∧ loaded.value.warnings = []) ∧
        ∀ (count : UInt8) (data : List UInt8), rest = count :: data →
          ∃ payloads left behind conflicts,
            (SlotCut count.toNat data payloads left ∧
              ∀ payloads' left', SlotCut count.toNat data payloads' left' →
                payloads' = payloads ∧ left' = left) ∧
            loaded.value.lines =
              (payloads.filterMap fun payload => (Script.decode payload).toOption).mapIdx
                (fun i s => ⟨i + 1, s.text, .ok s⟩) ∧
            loaded.value.warnings = rejections 0 payloads ++ behind ++ conflicts ∧
            (payloads.length < count.toNat →
              ∃ offset, behind = [.corruptScript payloads.length (.unexpectedEnd offset)]) ∧
            (payloads.length = count.toNat →
              behind = if left = [] then [] else [.trailingBytes left.length]) ∧
            ∀ w ∈ conflicts, ∃ index id, w = .spawnIdConflict index id := by
  constructor
  · intro data
    constructor
    · -- Only the tiles can keep a file from being loaded, whatever stands behind them.
      rintro ⟨loaded, hload⟩
      rcases load_eq_ok_iff.mp hload with ⟨g, rest, hg, hdata, -⟩
      exact ⟨g, rest, hg, hdata⟩
    · rintro ⟨g, rest, hg, hdata⟩
      exact ⟨_, load_eq_ok_iff.mpr ⟨g, rest, hg, hdata, rfl⟩⟩
  · intro g rest hg
    cases rest with
    | nil =>
        rcases exists_load_bytes hg with ⟨loaded, hload, hgrid, hlines, hwarnings⟩
        rw [List.append_nil]
        -- There is no byte that counts slots, so nothing is asked about them.
        refine ⟨loaded, hload, hgrid, fun _ => ⟨hlines, hwarnings⟩, fun count data hrest => ?_⟩
        exact absurd hrest (List.cons_ne_nil count data).symm
    | cons count data =>
        -- Any bytes are cut into slots somehow, and loading follows this cut.
        rcases exists_slotCut count.toNat data with ⟨payloads, left, hcut⟩
        rcases exists_load_of_slotCut hg hcut with
          ⟨loaded, behind, hload, hgrid, hlines, hwarnings, hend⟩
        refine ⟨loaded, hload, hgrid, fun hrest => absurd hrest (List.cons_ne_nil _ _), ?_⟩
        rintro count' data' ⟨⟩
        exact ⟨payloads, left, behind, _, ⟨hcut, fun payloads' left' hcut' => hcut.unique hcut'⟩,
          hlines, hwarnings, hend.short, hend.full, fun w hw => eq_spawnIdConflict_of_mem hw⟩

/-- A map with three slots counted, of which the first holds no script, the second holds one
    and the last is missing. -/
def twoLossesFile : List UInt8 :=
  [1, 1, 0x21, 0x81, 7, 3, 0, 1, 255, 0, 6, 6, 0, 0, 0, 5, 13]

/-- Of three slots that are counted, the first holds no script and the last is
    missing. The script of the second is the only line, and both losses are told. -/
theorem load_despite_two_losses :
    ∃ loaded offset conflicts,
      load twoLossesFile = .ok loaded ∧
      loaded.value.lines.length = 1 ∧
      loaded.value.warnings = .corruptScript 0 (.unknownOperator 255 0) ::
        .corruptScript 2 (.unexpectedEnd offset) :: conflicts ∧
      ∀ w ∈ conflicts, ∃ index id, w = .spawnIdConflict index id := by
  -- The tiles alone are a map, so their grid is sound.
  have htiles : load [1, 1, 0x21, 0x81, 7] = .ok _ := rfl
  have hsound := (sound_load htiles).grid
  rcases load_despite_damage.2 _ [3, 0, 1, 255, 0, 6, 6, 0, 0, 0, 5, 13] hsound with
    ⟨loaded, hload, -, -, hsection⟩
  rcases hsection 3 _ rfl with
    ⟨payloads, left, behind, conflicts, ⟨-, hunique⟩, hlines, hwarnings, hshort, -, hconflicts⟩
  -- There is one cut, so it is enough to name it.
  have hcut : SlotCut (3 : UInt8).toNat [0, 1, 255, 0, 6, 6, 0, 0, 0, 5, 13]
      [[255], [6, 0, 0, 0, 5, 13]] [] := by
    change SlotCut 3 (slotBytes [255] ++ (slotBytes [6, 0, 0, 0, 5, 13] ++ [])) _ _
    rw [slotCut_cons_iff, slotCut_cons_iff]
    refine ⟨by decide, by decide, slotCut_nil fun _ _ _ _ h => ?_⟩
    exact List.cons_ne_nil _ _ h.symm
  rcases hunique _ _ hcut with ⟨rfl, rfl⟩
  rcases hshort (by decide) with ⟨offset, rfl⟩
  exact ⟨loaded, offset, conflicts, hload, congrArg List.length hlines, hwarnings, hconflicts⟩

end Document

end TileTriggers
