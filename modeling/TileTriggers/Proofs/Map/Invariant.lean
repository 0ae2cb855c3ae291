import TileTriggers.Map.History
import TileTriggers.Proofs.Map.Load

/-!
# What Holds of Every Document

Every history leads to sound documents: its beginning is one, and an edit leaves one
behind, because it keeps the document sound or is refused and changes nothing. Since
`Reachable` has no other way to go on, no order of edits and no argument is left out.

## Theorems

* `Document.sound_after`: One edit, refused or not.
* `Document.Reachable.sound`: Every history.
* `Document.Reachable.invariants`: What this says of a document, part by part.
-/

namespace TileTriggers

namespace Document

variable {d : Document}

theorem sound_after (hd : d.Sound) (e : Edit) : (d.after e).Sound := by
  rw [after]
  split
  · rename_i edited hedited
    cases e with
    | place x y kind => exact sound_place hd hedited
    | resize width height =>
        rw [apply] at hedited
        -- Resizing can be refused, and what it leaves behind otherwise is known to be sound.
        cases hresized : d.resize width height with
        | error error =>
            rw [hresized] at hedited
            exact absurd hedited (by simp only [Except.mapError, reduceCtorEq, not_false_eq_true])
        | ok resized =>
            rw [hresized] at hedited
            rw [← Except.ok.inj hedited]
            exact sound_resize hd hresized
    | setScriptText listing =>
        rw [← Except.ok.inj hedited]
        exact sound_setScriptText hd listing
  · -- A refused edit leaves the document as it was.
    exact hd

/-- Every history leads to sound documents. -/
theorem Reachable.sound (h : d.Reachable) : d.Sound := by
  induction h with
  | new h => exact sound_new h
  | load h => exact sound_load h
  | after _ e ih => exact sound_after ih e

/-- The scripts can be replaced at any time. -/
theorem Reachable.setScriptText (h : d.Reachable) (listing : String) :
    (d.setScriptText listing).value.Reachable :=
  h.after (.setScriptText listing)

/-- What holds of the document at the end of every history. Its size is one that a map
    can have and its grid has as many tiles, each tile keeps its layers and has an id
    exactly when it has an object, no two tiles share an id, the ids in use are those
    of tiles and of spawn entries in lines that compiled, and no line holds a script
    that breaks a rule. -/
theorem Reachable.invariants (h : d.Reachable) :
    (1 ≤ d.grid.width ∧ d.grid.width ≤ 255) ∧ (1 ≤ d.grid.height ∧ d.grid.height ≤ 255) ∧
    d.grid.tiles.size = d.grid.width * d.grid.height ∧
    (∀ t ∈ d.grid.tiles,
      (t.background.isObject = false ∧ t.background ≠ .delete) ∧
      (t.objectType = .empty ∨ t.objectType.isObject = true) ∧
      (t.objectId?.isSome = true ↔ t.objectType ≠ .empty)) ∧
    d.grid.objectIds.Nodup ∧
    (∀ id, d.ids.contains id = true ↔
      (∃ t ∈ d.grid.tiles, t.objectId? = some id) ∨
      ∃ line ∈ d.lines, ∃ s, line.result = .ok s ∧ ∃ spawn ∈ s.action.spawns, spawn.id = id) ∧
    (∀ line ∈ d.lines, ∀ s, line.result = .ok s → s.Valid) := by
  have hd := h.sound
  -- Each part is one of the fields of soundness, spelled out.
  rcases dimensionError?_eq_none_iff.mp hd.grid.dimensions with ⟨hwidth, hheight⟩
  refine ⟨hwidth, hheight, hd.grid.size, fun t ht => ?_, hd.grid.distinct, fun id => ?_,
    fun line hline s hs => ?_⟩
  · have hsound := hd.grid.tiles t (Array.mem_toList_iff.mpr ht)
    refine ⟨⟨hsound.background, hsound.background_ne_delete⟩, ?_⟩
    -- An object has an id and nothing else has one, so the two cases are told apart.
    rcases hsound.object_cases with ⟨hempty, hnone⟩ | ⟨hobject, id, hsome⟩
    · simp [hempty, Tile.objectId?, hnone]
    · have hne : t.objectType ≠ .empty := by
        intro hempty
        rw [hempty] at hobject
        exact absurd hobject (by decide)
      simp [hobject, hne, Tile.objectId?, hsome]
  · -- Both sets of ids are collected from lists, so being in them is an existence.
    rw [hd.ids]
    simp only [Grid.objectIds, spawnIds, scripts, Script.spawnIds, List.mem_filterMap,
      List.mem_flatMap, List.mem_map, LineReport.script?, Fallible.toOption_eq_some,
      Array.mem_toList_iff]
    constructor
    · rintro (htile | ⟨s, ⟨line, hline, hs⟩, hspawn⟩)
      · exact Or.inl htile
      · exact Or.inr ⟨line, hline, s, hs, hspawn⟩
    · rintro (htile | ⟨line, hline, s, hs, hspawn⟩)
      · exact Or.inl htile
      · exact Or.inr ⟨s, ⟨line, hline, hs⟩, hspawn⟩
  · exact hd.scripts s (List.mem_filterMap.mpr ⟨line, hline, Fallible.toOption_eq_some.mpr hs⟩)

/-- A map of two tiles, the second with an object, and a script whose spawn entry has the id
    of that object. -/
def sharedIdFile : List UInt8 :=
  [2, 1, 0x21, 0, 0x21, 0x81, 0, 1, 0, 11, 6, 0, 0, 0, 5, 9, 1, 0xa2, 0, 0, 0]

/-- A map is loaded in which a tile and a spawn entry share an id, and the object is taken
    from the tile: the id is on no tile any more, and it stays in use on account of the
    entry. -/
theorem invariants_of_shared_id :
    ∃ d : Document, d.Reachable ∧ 0 ∉ d.grid.objectIds ∧ d.ids.contains 0 = true ∧
      ∃ line ∈ d.lines, ∃ s, line.result = .ok s ∧ ∃ spawn ∈ s.action.spawns, spawn.id = 0 := by
  have h := Reachable.after
    (.load (show load sharedIdFile = .ok _ from rfl))
    (.place 1 0 .empty)
  refine ⟨_, h, by decide +kernel, by decide +kernel, ?_⟩
  -- The id is in use and on no tile, so it is an entry that names it.
  rcases (h.invariants.2.2.2.2.2.1 0).mp (by decide +kernel) with ⟨t, ht, hid⟩ | hspawn
  · have hmem := List.mem_filterMap.mpr ⟨t, Array.mem_toList_iff.mpr ht, hid⟩
    exact absurd hmem (by decide +kernel)
  · exact hspawn

end Document

end TileTriggers
