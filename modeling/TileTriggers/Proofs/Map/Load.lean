import TileTriggers.Proofs.Map.Slots
import TileTriggers.Proofs.Map.Sound
import TileTriggers.Proofs.Map.Tiles

/-!
# Loaded Documents

A file can be loaded exactly when it begins with the bytes of a sound grid. Nothing
behind those can prevent it, so what the document is depends on a grid and on the rest
of the data, whatever that is, and it is sound in any case.

## Theorems

* `Document.scripts_ofSections`: The scripts of the document are those of the slots.
* `Document.load_eq_ok_iff`: When a file can be loaded, and what the document is.
* `Document.sound_load`: A loaded document is sound.
-/

namespace TileTriggers

namespace Document

/-- What is looked for on numbered lines, when the numbers make no difference. -/
theorem filterMap_mapIdx_of_forall {α β γ : Type} {line : Nat → α → β} {get : β → Option γ}
    {find : α → Option γ} (h : ∀ i a, get (line i a) = find a) (as : List α) :
    (as.mapIdx line).filterMap get = as.filterMap find := by
  -- The numbers shift along the list, so the induction is about any numbering.
  induction as generalizing line with
  | nil => rfl
  | cons a as ih =>
      rw [List.mapIdx_cons, List.filterMap_cons, List.filterMap_cons, h 0 a,
        ih fun i => h (i + 1)]

/-- Lines that stand for scripts hold these scripts. -/
theorem filterMap_mapIdx_ofScript (scripts : List Script) :
    (scripts.mapIdx LineReport.ofScript).filterMap LineReport.script? = scripts := by
  have hline : ∀ i s, (LineReport.ofScript i s).script? = some s := fun _ _ => rfl
  rw [filterMap_mapIdx_of_forall hline, List.filterMap_some]

theorem scripts_of_lines {d : Document} {scripts : List Script}
    (h : d.lines = scripts.mapIdx LineReport.ofScript) : d.scripts = scripts := by
  rw [Document.scripts, h, filterMap_mapIdx_ofScript]

theorem scripts_ofSections (g : Grid) (onTiles : IdSet) (slots : ScriptSlots) :
    (ofSections g onTiles slots).value.scripts = slots.scripts :=
  scripts_of_lines rfl

/-- A file is loaded exactly when it begins with the bytes of a sound grid. -/
theorem load_eq_ok_iff {data : List UInt8} {loaded : Logged Document} :
    load data = .ok loaded ↔ ∃ (g : Grid) (rest : List UInt8), g.Sound ∧ data = g.bytes ++ rest ∧
      loaded = ofSections g (.ofList g.objectIds) (.ofCursor ⟨g.bytes.length, rest⟩) := by
  rw [load, Fallible.bind_eq_ok]
  constructor
  · rintro ⟨⟨⟨g, onTiles⟩, ⟨position, rest⟩⟩, hgrid, h⟩
    -- The grid is read by a reader that undoes its bytes, and behind it nothing can fail.
    rcases (Read.inverts_grid _ _ _).mp hgrid with ⟨⟨hsound, hids⟩, hunread, hposition⟩
    simp only [Cursor.start, Nat.zero_add] at hids hunread hposition
    refine ⟨g, rest, hsound, hunread, ?_⟩
    rw [← Except.ok.inj h, hids, hposition]
  · rintro ⟨g, rest, hsound, rfl, rfl⟩
    refine ⟨((g, .ofList g.objectIds), ⟨g.bytes.length, rest⟩), ?_, rfl⟩
    exact (Read.inverts_grid _ _ _).mpr ⟨⟨hsound, rfl⟩, rfl, (Nat.zero_add _).symm⟩

theorem sound_load {data : List UInt8} {loaded : Logged Document}
    (h : load data = .ok loaded) : loaded.value.Sound := by
  rcases load_eq_ok_iff.mp h with ⟨g, rest, hg, -, rfl⟩
  refine ⟨hg, fun id => ?_, ?_⟩
  · rw [spawnIds, scripts_ofSections]
    -- To the ids on tiles, which are in the set already, those of the scripts are added.
    change (List.foldl IdSet.insert _ _).contains id = true ↔ _
    rw [IdSet.contains_foldl_insert, IdSet.contains_ofList, Bool.or_eq_true,
      List.contains_iff_mem, List.contains_iff_mem]
    rfl
  · rw [scripts_ofSections]
    exact fun s => ScriptSlots.valid_of_mem_scripts

end Document

end TileTriggers
