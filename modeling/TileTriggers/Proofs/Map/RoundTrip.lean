import TileTriggers.Proofs.Map.Damage
import TileTriggers.Proofs.Map.Invariant

/-!
# Saved Maps

A document that can be saved is found again by loading the file, as far as it is in the
file: the grid, the scripts and therefore the ids in use. Lines that did not compile
are not in the file, and the warnings are about the file and not about the document.

That loading accepts the file at all rests on the document being sound. A tile in the
wrong layer or an id on two tiles would be written without complaint and refused on the
way back.

## Theorems

* `Document.save_eq_ok_iff`: When a sound document can be saved, and what is written.
* `Document.load_saved`: What is loaded from the file of a sound document.
* `Document.Reachable.load_save`: Saving and loading again.
-/

namespace TileTriggers

namespace Document

variable {d : Document}

/-- What saving a sound document writes: the grid and the section of its scripts. Only
    the number of the scripts and their lengths can prevent it. -/
theorem save_eq_ok_iff (hd : d.Sound) {saved : Logged (List UInt8)} :
    d.save = .ok saved ↔
      d.scripts.length ≤ maxScripts ∧ (∀ s ∈ d.scripts, s.bytes.length ≤ maxScriptLength) ∧
      saved = ⟨d.grid.bytes ++ sectionBytes d.scripts,
        [.saved d.grid.width d.grid.height d.scripts.length
          (d.grid.bytes ++ sectionBytes d.scripts).length]⟩ := by
  unfold save
  rw [hd.grid.dimensions]
  simp only
  -- The number of the scripts is looked at first, and too many are refused.
  split_ifs with hmany
  · simp only [bind, Except.bind, throw, throwThe, MonadExceptOf.throw, reduceCtorEq, false_iff]
    omega
  · simp only [Fallible.bind_eq_ok, mapM_payloadAt_eq_ok_iff 0 hd.scripts]
    constructor
    · -- No payload is refused, since the scripts break no rule.
      rintro ⟨payloads, ⟨hlength, rfl⟩, h⟩
      refine ⟨by omega, hlength, ?_⟩
      rw [← Except.ok.inj h, List.length_map]
      rfl
    · rintro ⟨-, hlength, rfl⟩
      refine ⟨_, ⟨hlength, rfl⟩, ?_⟩
      rw [List.length_map]
      rfl

/-- The document that is loaded from the file of a sound document. -/
theorem load_saved (hd : d.Sound) (hcount : d.scripts.length ≤ maxScripts)
    (hlength : ∀ s ∈ d.scripts, s.bytes.length ≤ maxScriptLength) :
    ∃ loaded, load (d.grid.bytes ++ sectionBytes d.scripts) = .ok loaded ∧
      loaded.value.grid = d.grid ∧
      loaded.value.lines = d.scripts.mapIdx LineReport.ofScript ∧
      loaded.value.ids.used = d.ids.used ∧
      loaded.value.warnings =
        (d.scripts.mapIdx (spawnConflicts (.ofList d.grid.objectIds))).flatten := by
  -- The section is a cut already: as many slots as are counted, and nothing behind them.
  have hcut : SlotCut (UInt8.ofNat d.scripts.length).toNat
      ((d.scripts.map Script.bytes).flatMap slotBytes) (d.scripts.map Script.bytes) [] := by
    rw [toNat_ofNat_of_le_maxScripts hcount, ← List.length_map (f := Script.bytes)]
    exact slotCut_flatMap (List.forall_mem_map.mpr hlength)
  rcases exists_load_of_slotCut hd.grid hcut with
    ⟨loaded, behind, hload, hgrid, hlines, hwarnings, hend⟩
  -- The payloads are those of scripts, and nothing is behind them.
  have hfull : (d.scripts.map Script.bytes).length = (UInt8.ofNat d.scripts.length).toNat := by
    rw [List.length_map, toNat_ofNat_of_le_maxScripts hcount]
  rw [acceptedScripts_map_bytes hd.scripts] at hlines hwarnings
  rw [rejections_map_bytes hd.scripts, hend.full hfull] at hwarnings
  have hscripts : loaded.value.scripts = d.scripts := scripts_of_lines hlines
  exact ⟨loaded, hload, hgrid, hlines, hd.used_congr (sound_load hload) hgrid hscripts, hwarnings⟩

/-- A map that can be saved is loaded again from its file. The grid and the scripts are
    the same, each script stands on a line of its own with its canonical text, the
    same ids are in use, the only warnings are about spawn entries whose id is on a
    tile, and saving once more writes the same file. -/
theorem Reachable.load_save {saved : Logged (List UInt8)} (h : d.Reachable)
    (hsave : d.save = .ok saved) :
    ∃ loaded, Document.load saved.value = .ok loaded ∧
      loaded.value.grid = d.grid ∧
      loaded.value.scripts = d.scripts ∧
      loaded.value.lines = d.scripts.mapIdx (fun i s => ⟨i + 1, s.text, .ok s⟩) ∧
      loaded.value.ids.used = d.ids.used ∧
      loaded.value.warnings = (d.scripts.mapIdx fun i s =>
        (s.spawnIds.filter fun id => d.grid.objectIds.contains id).map
          (.spawnIdConflict i)).flatten ∧
      loaded.value.save = .ok saved := by
  have hd := h.sound
  rcases (save_eq_ok_iff hd).mp hsave with ⟨hcount, hlength, rfl⟩
  rcases load_saved hd hcount hlength with ⟨loaded, hload, hgrid, hlines, hids, hwarnings⟩
  have hscripts : loaded.value.scripts = d.scripts := by
    rw [scripts, hlines, filterMap_mapIdx_ofScript]
  refine ⟨loaded, hload, hgrid, hscripts, hlines, hids, ?_, ?_⟩
  · -- The ids on tiles are the same whether they are kept as a set or as a list.
    rw [hwarnings]
    congr 2
    funext i s
    exact congrArg _ (List.filter_congr fun id _ => IdSet.contains_ofList _ id)
  · -- What is saved depends on the grid and the scripts only.
    refine (save_eq_ok_iff (sound_load hload)).mpr ?_
    rw [hscripts, hgrid]
    exact ⟨hcount, hlength, rfl⟩

/-- A map in which a tile and a spawn entry share an id, with a second object put on it,
    saved and loaded again. -/
theorem load_save_of_shared_id :
    ∃ (d : Document) (saved : Logged (List UInt8)), d.Reachable ∧ d.save = .ok saved ∧
      ∃ loaded, load saved.value = .ok loaded ∧ loaded.value.grid = d.grid ∧
        loaded.value.ids.used = d.ids.used ∧
        loaded.value.warnings = [.spawnIdConflict 0 0] ∧ loaded.value.save = .ok saved := by
  have h := Reachable.after
    (.load (show load sharedIdFile = .ok _ from rfl))
    (.place 0 0 .enemyBoss)
  have hsave := (save_eq_ok_iff h.sound).mpr ⟨by decide +kernel, by decide +kernel, rfl⟩
  rcases h.load_save hsave with ⟨loaded, hload, hgrid, -, -, hids, hwarnings, hagain⟩
  exact ⟨_, _, h, hsave, loaded, hload, hgrid, hids, hwarnings.trans (by decide +kernel), hagain⟩

end Document

end TileTriggers
