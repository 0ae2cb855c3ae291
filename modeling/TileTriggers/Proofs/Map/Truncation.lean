import TileTriggers.Proofs.Map.Damage
import TileTriggers.Proofs.Map.RoundTrip

/-!
# Truncated Map Files

A file that breaks off is never taken for something else. Within the header and the
tiles it is refused for want of data, and the error names the length that it has got:
there every reader takes a single byte, so the place where a byte is missing is the end
of the data. Behind the tiles the grid is there, and so are the scripts whose slots are
complete. The first slot that is not complete is told, at its own position, and nothing
is told about the slots behind it, of which the file does not say where they begin.

No cut leaves a complete slot in place of an incomplete one, since no slot is the
beginning of another, and no cut leaves bytes that no slot was counted for, since the
count in front of the slots is that of the whole file.

## Main definitions

* `MapError.Short`: The error of data that ends within the tiles.

## Theorems

* `Read.sequential_tiles`, `Read.sequential_grid`: The readers of the tiles.
* `Document.load_take_bytes`: A file that breaks off within the tiles.
* `Document.exists_slotCut_sectionBytes`: The slots of a section that breaks off.
* `Document.Reachable.load_truncated`: A saved file that breaks off anywhere.
-/

namespace TileTriggers

/-- The data ends before all was read, and the error tells its length. -/
def MapError.Short (data : List UInt8) (e : MapError) : Prop :=
  e = .format (.unexpectedEnd data.length)

namespace Read

open MapError (Short)

/-- A single byte that is missing is missing at the end of the data. -/
theorem sequential_raw_byte : Sequential Short (fun _ _ => True) (raw byte) := by
  have hbyte : Sequential (fun data e => e = .unexpectedEnd data.length) (fun _ _ => True) byte :=
    sequential_byte fun _ => rfl
  exact hbyte.adaptError (fun _ _ h => congrArg MapError.format h) fun _ _ _ => trivial

theorem sequential_raw_tileType : Sequential Short (fun _ _ => True) (raw tileType) := by
  have htype : Sequential (fun data e => e = .unexpectedEnd data.length) (fun _ _ => True)
      tileType := sequential_lookup (fun _ => rfl) fun _ _ _ _ => trivial
  exact htype.adaptError (fun _ _ h => congrArg MapError.format h) fun _ _ _ => trivial

theorem sequential_layered (background kind : TileType) (x y : Nat) (seen : IdSet) :
    Sequential Short (fun _ _ => True) (layered background kind x y seen) := by
  rw [layered]
  -- Only a tile with an object has one more byte to read.
  split_ifs with hempty hobject
  · exact sequential_pure _
  · refine sequential_raw_byte.bind fun _ id _ _ => ?_
    split_ifs with hseen
    · exact sequential_fail fun _ => trivial
    · exact sequential_pure _
  · exact sequential_fail fun _ => trivial

theorem sequential_tile (x y : Nat) (seen : IdSet) :
    Sequential Short (fun _ _ => True) (tile x y seen) := by
  refine sequential_raw_tileType.bind fun _ background _ _ => ?_
  split_ifs with hmisplaced
  · exact sequential_fail fun _ => trivial
  · exact sequential_raw_tileType.bind fun _ kind _ _ => sequential_layered background kind x y seen

theorem sequential_tiles (width n : Nat) (done : Array Tile) (seen : IdSet) :
    Sequential Short (fun _ _ => True) (tiles width n done seen) := by
  induction n generalizing done seen with
  | zero => exact sequential_pure _
  | succ n ih => exact (sequential_tile _ _ seen).bind fun _ p _ _ => ih (done.push p.1) p.2

theorem sequential_grid : Sequential Short (fun _ _ => True) grid := by
  refine sequential_raw_byte.bind fun _ width _ _ => ?_
  refine sequential_raw_byte.bind fun _ height _ _ => ?_
  simp only
  split
  · exact sequential_fail fun _ => trivial
  · exact (sequential_tiles _ _ _ _).bind fun _ p _ _ => sequential_pure _

end Read

namespace Document

variable {d : Document} {g : Grid} {k : Nat}

/-- A file that breaks off within the header and the tiles is refused for want of data, at
    the very place where it breaks off. -/
theorem load_take_bytes (hg : g.Sound) (hk : k < g.bytes.length) :
    load (g.bytes.take k) = .error (.format (.unexpectedEnd k)) := by
  -- With the missing part put back, the grid is read and nothing is left of the data.
  have hread : Read.grid (.start (g.bytes.take k ++ g.bytes.drop k)) =
      .ok ((g, .ofList g.objectIds), ⟨g.bytes.length, []⟩) := by
    rw [List.take_append_drop]
    refine (Read.inverts_grid _ _ _).mpr ⟨⟨hg, rfl⟩, ?_, (Nat.zero_add _).symm⟩
    exact (List.append_nil _).symm
  -- Something is missing, so the reader cannot have come to its end.
  have hrest : g.bytes.drop k ≠ [] := by
    intro hnil
    have hle := List.drop_eq_nil_iff.mp hnil
    omega
  have hlength : (g.bytes.take k).length = k := List.length_take_of_le (Nat.le_of_lt hk)
  rcases Read.sequential_grid.exists_error_of_append hrest hread rfl with ⟨e, herror, hshort⟩
  rw [load, herror, hshort, hlength]
  rfl

/-- A file that breaks off behind the tiles. The section that is left begins with the count
    of all slots and is cut into those that are wholly there, which are not all. -/
theorem exists_slotCut_sectionBytes {scripts : List Script} (g : Grid)
    (hcount : scripts.length ≤ maxScripts)
    (hlength : ∀ s ∈ scripts, s.bytes.length ≤ maxScriptLength) (hk : g.bytes.length < k)
    (hlt : k < (g.bytes ++ sectionBytes scripts).length) :
    ∃ data left, (g.bytes ++ sectionBytes scripts).take k =
        g.bytes ++ UInt8.ofNat scripts.length :: data ∧
      wholeSlots (g.bytes.length + 1) (scripts.map Script.bytes) k < scripts.length ∧
      SlotCut (UInt8.ofNat scripts.length).toNat data ((scripts.take
        (wholeSlots (g.bytes.length + 1) (scripts.map Script.bytes) k)).map Script.bytes) left := by
  have hfits : ∀ payload ∈ scripts.map Script.bytes, payload.length ≤ maxScriptLength :=
    List.forall_mem_map.mpr hlength
  rw [sectionBytes, List.length_append, List.length_cons] at hlt
  rcases exists_slotCut_take hfits (Nat.succ_le_of_lt hk) (by omega) with ⟨hwhole, left, hcut⟩
  rw [List.length_map] at hwhole hcut
  rw [← List.map_take] at hcut
  rw [toNat_ofNat_of_le_maxScripts hcount]
  refine ⟨_, left, ?_, hwhole, hcut⟩
  -- Behind the tiles there is at least the count.
  have hcut : k - g.bytes.length = k - (g.bytes.length + 1) + 1 := by omega
  rw [sectionBytes, List.take_append, List.take_of_length_le (Nat.le_of_lt hk), hcut,
    List.take_succ_cons]

/-- A saved file that breaks off anywhere. Within the header and the tiles it is refused,
    and the error names the place where it breaks off. Right behind them it is a map with
    the same grid and without scripts, and nothing is told. Further on it is a map with
    the same grid and the scripts whose slots are complete. Then the next slot is told as
    the one that the data breaks off, and nothing else but ids that the scripts which are
    left share with tiles. -/
theorem Reachable.load_truncated {saved : Logged (List UInt8)} (h : d.Reachable)
    (hsave : d.save = .ok saved) (hk : k < saved.value.length) :
    saved.value = d.grid.bytes ++ sectionBytes d.scripts ∧
    (k < d.grid.bytes.length →
      Document.load (saved.value.take k) = .error (.format (.unexpectedEnd k))) ∧
    (k = d.grid.bytes.length → ∃ loaded, Document.load (saved.value.take k) = .ok loaded ∧
      loaded.value.grid = d.grid ∧ loaded.value.scripts = [] ∧ loaded.value.warnings = []) ∧
    (d.grid.bytes.length < k → ∃ loaded j offset, Document.load (saved.value.take k) = .ok loaded ∧
      j = wholeSlots (d.grid.bytes.length + 1) (d.scripts.map Script.bytes) k ∧
      loaded.value.grid = d.grid ∧ loaded.value.scripts = d.scripts.take j ∧
      loaded.value.warnings = .corruptScript j (.unexpectedEnd offset) ::
        ((d.scripts.take j).mapIdx fun i s =>
          (s.spawnIds.filter fun id => d.grid.objectIds.contains id).map
            (.spawnIdConflict i)).flatten) := by
  have hd := h.sound
  rcases (save_eq_ok_iff hd).mp hsave with ⟨hcount, hlength, rfl⟩
  refine ⟨rfl, fun hwithin => ?_, fun hbehind => ?_, fun hbeyond => ?_⟩
  · -- The part that is left is one of the tile section.
    have htake : (d.grid.bytes ++ sectionBytes d.scripts).take k = d.grid.bytes.take k :=
      List.take_append_of_le_length (Nat.le_of_lt hwithin)
    rw [htake]
    exact load_take_bytes hd.grid hwithin
  · -- What is left are the tiles and nothing behind them.
    rcases exists_load_bytes hd.grid with ⟨loaded, hload, hgrid, hlines, hwarnings⟩
    have htake : (d.grid.bytes ++ sectionBytes d.scripts).take k = d.grid.bytes :=
      List.take_left' hbehind.symm
    rw [htake]
    exact ⟨loaded, hload, hgrid, by rw [scripts, hlines]; rfl, hwarnings⟩
  · rcases exists_slotCut_sectionBytes d.grid hcount hlength hbeyond hk with
      ⟨data, left, htake, hwhole, hcut⟩
    rcases exists_load_of_slotCut hd.grid hcut with
      ⟨loaded, behind, hload, hgrid, hlines, hwarnings, hend⟩
    rw [toNat_ofNat_of_le_maxScripts hcount] at hend
    -- Abbreviate the number of the slots that are left.
    generalize hj : wholeSlots (d.grid.bytes.length + 1) (d.scripts.map Script.bytes) k = j at *
    have hvalid : ∀ s ∈ d.scripts.take j, s.Valid := fun s hs =>
      hd.scripts s (List.mem_of_mem_take hs)
    have hleft : ((d.scripts.take j).map Script.bytes).length = j := by
      rw [List.length_map, List.length_take_of_le (Nat.le_of_lt hwhole)]
    -- The payloads in front of the break are scripts, so the break is all that is told.
    rcases hend.short (hleft.trans_lt hwhole) with ⟨offset, rfl⟩
    rw [acceptedScripts_map_bytes hvalid] at hlines hwarnings
    rw [rejections_map_bytes hvalid, hleft] at hwarnings
    refine ⟨loaded, j, offset, by rw [htake]; exact hload, rfl, hgrid, ?_, ?_⟩
    · rw [scripts, hlines, filterMap_mapIdx_ofScript]
    · rw [hwarnings, List.nil_append, List.singleton_append, spawnConflicts_ofList]

/-- A map of one tile with an object and with two scripts, the first of which spawns the id of
    that object. -/
def twoScriptsFile : List UInt8 :=
  [1, 1, 0x21, 0x81, 7, 2, 0, 11, 6, 0, 0, 0, 5, 9, 1, 0xa2, 7, 0, 0, 0, 6, 6, 0, 0, 0, 5, 13]

/-- A map with two scripts, the first of which shares its id with a tile, is saved. When
    the file breaks off in a tile, it is refused there. When it breaks off in the second
    script, the first one is left, and so is the shared id. -/
theorem load_truncated_of_two_scripts :
    ∃ (d : Document) (saved : Logged (List UInt8)), d.Reachable ∧ d.save = .ok saved ∧
      load (saved.value.take 4) = .error (.format (.unexpectedEnd 4)) ∧
      ∃ loaded offset, load (saved.value.take 25) = .ok loaded ∧
        loaded.value.scripts = d.scripts.take 1 ∧ loaded.value.warnings =
          [.corruptScript 1 (.unexpectedEnd offset), .spawnIdConflict 0 7] := by
  have h := Reachable.load (show load twoScriptsFile = .ok _ from rfl)
  have hsave := (save_eq_ok_iff h.sound).mpr ⟨by decide +kernel, by decide +kernel, rfl⟩
  have htile := (h.load_truncated (k := 4) hsave (by decide +kernel)).2.1 (by decide +kernel)
  rcases (h.load_truncated (k := 25) hsave (by decide +kernel)).2.2.2 (by decide +kernel) with
    ⟨loaded, j, offset, hload, hj, -, hscripts, hwarnings⟩
  -- Of the two slots only the first ends before the break.
  have hone : j = 1 := hj.trans (by decide +kernel)
  rw [hone] at hscripts hwarnings
  exact ⟨_, _, h, hsave, htile, loaded, offset, hload, hscripts,
    hwarnings.trans (congrArg _ (by decide +kernel))⟩

end Document

end TileTriggers
