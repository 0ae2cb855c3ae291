import TileTriggers.Map.Edit
import TileTriggers.Proofs.Map.Grid
import TileTriggers.Proofs.Map.Pool
import TileTriggers.Proofs.Script.RoundTrip
import Mathlib.Tactic.Tauto

/-!
# Sound Documents

A document is sound when its grid is, when the pool holds exactly the ids that tiles
carry or spawn entries name, and when no script that it holds breaks a rule. Editing
keeps a document sound.

The pool is what makes this one property and not three side by side. Painting gives
an id back only after looking at the spawn entries, because a tile and a spawn entry
may share it. Reconciling never looks for ids of tiles that the pool lacks, and need
not: a tile had its id in use before the change, and no change that is followed by
reconciling brings an id to a tile.

## Main definitions

* `Document.Sound`: What holds of every document.

## Theorems

* `Document.Sound.of_lines`: A document with the lines of a sound one.
* `Document.Sound.used_congr`: The grid and the scripts tell which ids are in use.
* `Document.contains_abandon`, `Document.contains_reconcile`: The ids in use after ids
  were given back, one or in bulk.
* `Document.resize_eq_ok_iff`: When the size can be changed, and to what this leads.
* `Document.sound_new`: A blank map.
* `Document.sound_clear`, `Document.sound_putObject`, `Document.sound_paint`: A painted
  cell.
* `Document.sound_place`, `Document.sound_resize`, `Document.sound_setScriptText`: The
  three edits.
-/

namespace TileTriggers

namespace Document

/-- A document whose grid is sound, whose pool holds the ids of tiles and spawn entries
    and no others, and whose scripts break no rule. -/
structure Sound (d : Document) : Prop where
  grid : d.grid.Sound
  ids : ∀ id, d.ids.contains id = true ↔ id ∈ d.grid.objectIds ∨ id ∈ d.spawnIds
  scripts : ∀ s ∈ d.scripts, s.Valid

variable {d : Document} {x y : Nat} {t : Tile}

theorem scripts_congr {d' : Document} (h : d'.lines = d.lines) : d'.scripts = d.scripts := by
  rw [scripts, scripts, h]

theorem spawnIds_congr {d' : Document} (h : d'.lines = d.lines) : d'.spawnIds = d.spawnIds := by
  rw [spawnIds, spawnIds, scripts_congr h]

/-- With the lines of a sound document, a document is sound if its grid is and its pool
    agrees with that grid. -/
theorem Sound.of_lines {d' : Document} (hd : d.Sound) (hlines : d'.lines = d.lines)
    (hgrid : d'.grid.Sound)
    (hids : ∀ id, d'.ids.contains id = true ↔ id ∈ d'.grid.objectIds ∨ id ∈ d.spawnIds) :
    d'.Sound where
  grid := hgrid
  ids id := by
    rw [hids, spawnIds_congr hlines]
  scripts := by
    rw [scripts_congr hlines]
    exact hd.scripts

/-- Sound documents with the same grid and the same scripts have the same ids in use. -/
theorem Sound.used_congr {d' : Document} (hd : d.Sound) (hd' : d'.Sound)
    (hgrid : d'.grid = d.grid) (hscripts : d'.scripts = d.scripts) :
    d'.ids.used = d.ids.used := by
  refine IdSet.ext fun id => ?_
  rw [Bool.eq_iff_iff]
  change d'.ids.contains id = true ↔ d.ids.contains id = true
  rw [hd'.ids, hd.ids, hgrid, spawnIds, spawnIds, hscripts]

/-- A blank map is sound. -/
theorem sound_new {width height : Nat} (h : new width height = .ok d) : d.Sound := by
  unfold new at h
  split at h
  · exact absurd h (by simp only [reduceCtorEq, not_false_eq_true])
  · rename_i hdimensions
    rw [← Except.ok.inj h]
    refine ⟨Grid.sound_blank hdimensions, fun id => ?_, by simp [scripts]⟩
    rw [Grid.objectIds_blank]
    simp [Pool.contains, Pool.fresh, spawnIds, scripts]

section Paint

/-- An id that was taken from a tile stays in use exactly when a spawn entry names it. -/
theorem contains_abandon {id other : UInt8} :
    (d.abandon id).value.ids.contains other = true ↔
      d.ids.contains other = true ∧ (other ≠ id ∨ other ∈ d.spawnIds) := by
  rw [abandon]
  split_ifs with hspawn
  · -- A spawn entry names the id, so nothing is given back.
    rw [List.contains_eq_mem, decide_eq_true_eq] at hspawn
    change d.ids.contains other = true ↔ _
    constructor
    · intro h
      refine ⟨h, ?_⟩
      by_cases hother : other = id
      · exact Or.inr (hother ▸ hspawn)
      · exact Or.inl hother
    · exact And.left
  · -- No spawn entry names it, so it is the one id that goes.
    rw [List.contains_eq_mem, decide_eq_true_eq] at hspawn
    change (d.ids.release id).value.contains other = true ↔ _
    rw [Pool.contains_release, Bool.and_eq_true, bne_iff_ne, ne_comm]
    refine and_congr_right fun _ => ⟨Or.inl, ?_⟩
    rintro (hother | hmem)
    · exact hother
    · rintro rfl
      exact hspawn hmem

theorem grid_abandon (id : UInt8) : (d.abandon id).value.grid = d.grid := by
  rw [abandon]
  split_ifs <;> rfl

theorem lines_abandon (id : UInt8) : (d.abandon id).value.lines = d.lines := by
  rw [abandon]
  split_ifs <;> rfl

/-- Taking the object from a tile keeps a document sound. -/
theorem sound_clear (hd : d.Sound) (hget : d.grid.get? x y = some t)
    {background : TileType → TileType}
    (hbackground : (background t.background).isObject = false)
    (hdelete : background t.background ≠ .delete) : (d.clear x y background).value.Sound := by
  let grid := d.grid.modify x y fun t => ⟨background t.background, none⟩
  have hgrid : grid.Sound :=
    Grid.sound_modify hd.grid hget ⟨hbackground, hdelete, by simp⟩ (by simp [Tile.objectId?])
  -- Of the ids on tiles only the one of this tile is gone.
  have hmem : ∀ id, id ∈ grid.objectIds ↔ id ∈ d.grid.objectIds ∧ t.objectId? ≠ some id := by
    intro id
    rw [Grid.mem_objectIds_modify hd.grid hget]
    simp [Tile.objectId?]
  rw [clear, hget, Option.bind_some]
  cases hid : t.objectId? with
  | none =>
      refine hd.of_lines rfl hgrid fun id => ?_
      change d.ids.contains id = true ↔ id ∈ grid.objectIds ∨ id ∈ d.spawnIds
      rw [hmem, hd.ids, hid]
      simp
  | some own =>
      -- The id leaves the grid, and it leaves the pool unless a spawn entry shares it.
      let cleared : Document := { d with grid }
      refine hd.of_lines (lines_abandon (d := cleared) own) ?_ fun id => ?_
      · rw [grid_abandon]
        exact hgrid
      · rw [grid_abandon, contains_abandon]
        change (d.ids.contains id = true ∧ (id ≠ own ∨ id ∈ d.spawnIds)) ↔
          id ∈ grid.objectIds ∨ id ∈ d.spawnIds
        rw [hmem, hd.ids, hid, ne_eq (some own), Option.some.injEq, eq_comm (a := own)]
        tauto

/-- Putting an object on a tile keeps a document sound, whether the id is taken over
    or handed out. -/
theorem sound_putObject (hd : d.Sound) (hget : d.grid.get? x y = some t) {kind : TileType}
    (hkind : kind.isObject) : (d.putObject x y kind).value.Sound := by
  have ht := hd.grid.tiles t (Grid.mem_of_get? hget)
  -- Whatever id it gets, an object on this background makes a sound tile.
  have hput : ∀ id, (⟨t.background, some ⟨kind, id⟩⟩ : Tile).Sound := by
    intro id
    refine ⟨ht.background, ht.background_ne_delete, ?_⟩
    rintro o ⟨⟩
    exact hkind
  rw [putObject, hget, Option.bind_some]
  cases hid : t.objectId? with
  | some own =>
      -- The id passes on to the new object, so the ids on the grid stay the same.
      refine hd.of_lines rfl (Grid.sound_modify hd.grid hget (hput own) ?_) fun id => ?_
      · rintro id ⟨⟩
        exact Or.inl hid
      · change d.ids.contains id = true ↔ id ∈ (d.grid.modify x y _).objectIds ∨ id ∈ d.spawnIds
        rw [Grid.mem_objectIds_modify_of_eq hd.grid hget (by rw [hid]; rfl), hd.ids]
  | none =>
      simp only
      cases hallocate : d.ids.allocate? with
      | none => exact hd
      | some allocated =>
          rcases Pool.contains_allocate? hallocate with ⟨hfree, hcontains⟩
          rcases allocated with ⟨⟨own, ids⟩, log⟩
          simp only at hfree hcontains ⊢
          -- An id on a tile is in use, and the one that is handed out was not.
          have hnew : own ∉ d.grid.objectIds := by
            intro hmem
            rw [(hd.ids own).mpr (Or.inl hmem)] at hfree
            exact absurd hfree (by decide)
          refine hd.of_lines rfl (Grid.sound_modify hd.grid hget (hput own) ?_) fun id => ?_
          · rintro id ⟨⟩
            exact Or.inr hnew
          · change ids.contains id = true ↔ id ∈ (d.grid.modify x y _).objectIds ∨ id ∈ d.spawnIds
            rw [Grid.mem_objectIds_modify hd.grid hget, hcontains, Bool.or_eq_true, hd.ids, hid]
            simp only [Tile.objectId?, Option.map_some, Option.some.injEq, beq_iff_eq, ne_eq,
              reduceCtorEq, not_false_eq_true, and_true]
            tauto

/-- Painting keeps a document sound. -/
theorem sound_paint (hd : d.Sound) (hget : d.grid.get? x y = some t) (kind : TileType) :
    (d.paint x y kind).value.Sound := by
  have ht := hd.grid.tiles t (Grid.mem_of_get? hget)
  unfold paint
  -- What is painted decides: the whole cell, its object, an object or a background.
  split
  · exact sound_clear hd hget (by decide) (by decide)
  · exact sound_clear hd hget ht.background ht.background_ne_delete
  · rename_i hdelete hempty
    split_ifs with hkind
    · exact sound_putObject hd hget hkind
    · -- A new background leaves the object and its id where they are.
      refine hd.of_lines rfl (Grid.sound_modify hd.grid hget ?_ ?_) fun id => ?_
      · exact ⟨Bool.eq_false_iff.mpr hkind, hdelete, ht.object⟩
      · exact fun id => Or.inl
      · change d.ids.contains id = true ↔ id ∈ (d.grid.modify x y _).objectIds ∨ id ∈ d.spawnIds
        rw [Grid.mem_objectIds_modify_of_eq hd.grid hget rfl, hd.ids]

theorem sound_place {kind : TileType} {painted : Logged Document} (hd : d.Sound)
    (h : d.place x y kind = .ok painted) : painted.value.Sound := by
  unfold place refusal? at h
  cases hget : d.grid.get? x y with
  | none =>
      rw [hget] at h
      exact absurd h (by simp only [reduceCtorEq, not_false_eq_true])
  | some t =>
      split at h
      · exact absurd h (by simp only [reduceCtorEq, not_false_eq_true])
      · rw [← Except.ok.inj h]
        exact sound_paint hd hget kind

end Paint

section Reconcile

/-- After reconciling, the ids in use are those of tiles and spawn entries, provided that
    the ids of tiles were in use. -/
theorem contains_reconcile (h : ∀ id ∈ d.grid.objectIds, d.ids.contains id = true) {id : UInt8} :
    d.reconcile.value.ids.contains id = true ↔ id ∈ d.grid.objectIds ∨ id ∈ d.spawnIds := by
  have htiles := h id
  -- The ids of entries are brought in first, and then all ids but those named are dropped.
  rw [reconcile]
  change (Pool.retain _ _).value.contains id = true ↔ _
  rw [Pool.contains_retain]
  change ((d.ids.used.union d.spawnSet).contains id && (d.tileSet.contains id ||
    d.spawnSet.contains id)) = true ↔ _
  simp only [IdSet.contains_union, tileSet, spawnSet, IdSet.contains_ofList, Bool.and_eq_true,
    Bool.or_eq_true, List.contains_eq_mem, decide_eq_true_eq]
  -- Reserving brings in the ids of spawn entries, those of tiles have to be there.
  change (d.ids.contains id = true ∨ _) ∧ _ ↔ _
  tauto

/-- Reconciling makes a document sound whose grid is, whose scripts break no rule, and
    whose tiles have their ids in use. -/
theorem sound_reconcile (hgrid : d.grid.Sound)
    (hids : ∀ id ∈ d.grid.objectIds, d.ids.contains id = true)
    (hscripts : ∀ s ∈ d.scripts, s.Valid) : d.reconcile.value.Sound :=
  ⟨hgrid, fun _ => contains_reconcile hids, hscripts⟩

theorem resize_eq_ok_iff {width height : Nat} {resized : Logged Document} :
    d.resize width height = .ok resized ↔ dimensionError? width height = none ∧
      resized = { d with grid := d.grid.resized width height }.reconcile := by
  rw [resize]
  cases dimensionError? width height with
  | none => simp [eq_comm]
  | some e => simp

theorem sound_resize {width height : Nat} {resized : Logged Document} (hd : d.Sound)
    (h : d.resize width height = .ok resized) : resized.value.Sound := by
  rcases resize_eq_ok_iff.mp h with ⟨hdimensions, rfl⟩
  refine sound_reconcile (Grid.sound_resized hd.grid hdimensions) ?_ hd.scripts
  -- An id that is left on the grid was on it before.
  intro id hid
  exact (hd.ids id).mpr (Or.inl (Grid.mem_objectIds_of_resized hid))

theorem lines_setScriptText (d : Document) (listing : String) :
    (d.setScriptText listing).value.lines = compileListing listing :=
  rfl

theorem sound_setScriptText (hd : d.Sound) (listing : String) :
    (d.setScriptText listing).value.Sound := by
  refine sound_reconcile hd.grid (fun id hid => (hd.ids id).mpr (Or.inl hid)) ?_
  intro s hs
  -- A script of a listing was compiled from a line, and compiling keeps the rules.
  rcases List.mem_filterMap.mp hs with ⟨report, hreport, hscript⟩
  rcases List.mem_mapIdx.mp hreport with ⟨index, hlt, rfl⟩
  exact Script.valid_of_parse (Fallible.toOption_eq_some.mp hscript)

end Reconcile

end Document

end TileTriggers
