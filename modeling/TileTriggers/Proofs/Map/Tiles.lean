import TileTriggers.Map.File
import TileTriggers.Proofs.Map.Grid
import TileTriggers.Proofs.Payload.Field
import Mathlib.Tactic.Tauto

/-!
# The Tile Section of a Map File

The reader of the header and the tiles undoes the writer on sound grids, and no file
leads it to a grid that is not sound. Everything that it refuses is something that a
sound grid does not have: a size out of bounds, a tile in the wrong layer, an id met
twice.

The reader carries along the ids that it has met, so what it does with the rest of
the tiles depends on those before. `Fresh` says what the rest must be like for a
given set of ids, and that it is the same thing to check the tiles one by one with
the set growing along.

## Main definitions

* `IdSet.insertIds`: A set of ids with those on some tiles.
* `Fresh`: Sound tiles without an id from a set or one twice.
* `TileFits`: What the reader of a tile accepts, and the ids that it has met then.
* `Grid.bytes`: The header and the tiles of a grid.

## Theorems

* `fresh_cons_iff`: The first tile and the rest behind it.
* `Read.inverts_tile`: The reader of a tile.
* `Read.inverts_tiles`: The reader of the tiles that are left.
* `Read.inverts_grid`: The reader of the header and the tiles.
-/

namespace TileTriggers

/-- The ids of the objects on some tiles, added to a set. -/
def IdSet.insertIds (seen : IdSet) (ts : List Tile) : IdSet :=
  (ts.filterMap Tile.objectId?).foldl IdSet.insert seen

/-- Tiles that are sound, whose ids differ, and none of whose ids is in a set. -/
structure Fresh (seen : IdSet) (ts : List Tile) : Prop where
  sound : ∀ t ∈ ts, t.Sound
  distinct : (ts.filterMap Tile.objectId?).Nodup
  unseen : ∀ id ∈ ts.filterMap Tile.objectId?, seen.contains id = false

theorem insertIds_cons (seen : IdSet) (t : Tile) (ts : List Tile) :
    seen.insertIds (t :: ts) = (seen.insertIds [t]).insertIds ts := by
  simp only [IdSet.insertIds, List.filterMap_cons]
  cases t.objectId? <;> rfl

theorem contains_insertIds_singleton (seen : IdSet) (t : Tile) (id : UInt8) :
    (seen.insertIds [t]).contains id = true ↔
      seen.contains id = true ∨ t.objectId? = some id := by
  rw [IdSet.insertIds, IdSet.contains_foldl_insert, Bool.or_eq_true, List.filterMap_cons]
  cases t.objectId? with
  | none => simp
  | some own =>
      simp only [List.filterMap_nil, List.contains_cons, List.contains_nil, Bool.or_false,
        beq_iff_eq, Option.some.injEq]
      rw [eq_comm (a := id)]

theorem fresh_nil (seen : IdSet) : Fresh seen [] :=
  ⟨by simp, by simp, by simp⟩

theorem fresh_cons_iff {seen : IdSet} {t : Tile} {ts : List Tile} :
    Fresh seen (t :: ts) ↔
      (t.Sound ∧ ∀ id, t.objectId? = some id → seen.contains id = false) ∧
        Fresh (seen.insertIds [t]) ts := by
  -- The ids of all tiles are the one of the first, if any, and those of the others.
  have hids : (t :: ts).filterMap Tile.objectId? =
      [] ++ (t.objectId?.toList ++ ts.filterMap Tile.objectId?) := by
    rw [List.filterMap_cons, List.nil_append]
    cases t.objectId? <;> rfl
  -- An id is unseen behind the first tile if it was before and is not that of this tile.
  have hseen : ∀ id, (seen.insertIds [t]).contains id = false ↔
      seen.contains id = false ∧ t.objectId? ≠ some id := by
    intro id
    rw [← Bool.not_eq_true, contains_insertIds_singleton, not_or, Bool.not_eq_true]
  constructor
  · rintro ⟨hsound, hdistinct, hunseen⟩
    rw [hids] at hdistinct hunseen
    rw [nodup_append_toList_append] at hdistinct
    rw [List.forall_mem_cons] at hsound
    refine ⟨⟨hsound.1, fun id hid => hunseen id (by simp [hid])⟩, hsound.2, hdistinct.1, ?_⟩
    intro id hid
    exact (hseen id).mpr ⟨hunseen id (by simp [hid]), fun hown => hdistinct.2 id hown hid⟩
  · rintro ⟨⟨ht, hown⟩, hsound, hdistinct, hunseen⟩
    refine ⟨List.forall_mem_cons.mpr ⟨ht, hsound⟩, ?_, fun id hid => ?_⟩
    · rw [hids, nodup_append_toList_append]
      exact ⟨hdistinct, fun id hid hmem => ((hseen id).mp (hunseen id hmem)).2 hid⟩
    · rw [hids, List.nil_append, List.mem_append, Option.mem_toList] at hid
      rcases hid with hid | hid
      · exact hown id hid
      · exact ((hseen id).mp (hunseen id hid)).1

/-- A grid is sound when its size is and its tiles are fresh with no id met before. -/
theorem Grid.sound_iff {g : Grid} :
    g.Sound ↔ dimensionError? g.width g.height = none ∧ g.tiles.toList.length = g.width * g.height ∧
      Fresh .empty g.tiles.toList := by
  constructor
  · intro hg
    exact ⟨hg.dimensions, hg.size, hg.tiles, hg.distinct, fun id _ => IdSet.contains_empty id⟩
  · rintro ⟨hdimensions, hsize, hfresh⟩
    exact ⟨hdimensions, hsize, hfresh.sound, hfresh.distinct⟩

/-- The bytes of the header and the tiles. -/
def Grid.bytes (g : Grid) : List UInt8 :=
  UInt8.ofNat g.width :: UInt8.ofNat g.height :: g.tiles.toList.flatMap Document.tileBytes

/-- A tile is its two layers and, with an object, the id. -/
theorem tileBytes_eq (t : Tile) :
    Document.tileBytes t = t.background.byte :: t.objectType.byte :: t.objectId?.toList := by
  rw [Document.tileBytes, Tile.objectType, Tile.objectId?]
  cases t.object <;> rfl

namespace Read

theorem inverts_raw {α : Type} {r : Read FormatError α} {bytes : α → List UInt8}
    {Fits : α → Prop} (h : Inverts r bytes Fits) : Inverts (raw r) bytes Fits := by
  intro c a c'
  rw [← h c a c', raw, adaptError]
  cases r c <;> simp [Except.mapError]

/-- A tile that a reader may find with some ids met before, and the ids met behind it. -/
def TileFits (seen : IdSet) (p : Tile × IdSet) : Prop :=
  (p.1.Sound ∧ ∀ id, p.1.objectId? = some id → seen.contains id = false) ∧
    p.2 = seen.insertIds [p.1]

section Layered

variable (x y : Nat) (seen : IdSet) {background : TileType}

/-- The tile without an object on a given background. -/
theorem inverts_layered_empty (hobject : background.isObject = false)
    (hdelete : background ≠ .delete) :
    Inverts (layered background .empty x y seen) (fun p => p.1.objectId?.toList)
      (fun p => (p.1.background = background ∧ p.1.objectType = .empty) ∧ TileFits seen p) := by
  rw [layered, if_pos (by decide)]
  refine inverts_pure (fun p => ?_) rfl
  constructor
  · rintro rfl
    exact ⟨⟨rfl, rfl⟩, ⟨⟨hobject, hdelete, by simp⟩, by simp [Tile.objectId?]⟩, rfl⟩
  · rintro ⟨⟨rfl, htype⟩, ⟨ht, -⟩, hids⟩
    -- A tile whose layer is of the empty type has no object there.
    rcases ht.object_cases with ⟨-, hnone⟩ | ⟨hkind, -⟩
    · rcases p with ⟨⟨background, object⟩, ids⟩
      simp only at hnone hids
      rw [hids, hnone]
      rfl
    · rw [htype] at hkind
      exact absurd hkind (by decide)

/-- The tile with an object on a given background: its id is the only thing left to
    read, and must not have been met before. -/
theorem inverts_layered_object (hobject : background.isObject = false)
    (hdelete : background ≠ .delete) {kind : TileType} (hkind : kind.isObject)
    (hempty : kind ≠ .empty) :
    Inverts (layered background kind x y seen) (fun p => p.1.objectId?.toList)
      (fun p => (p.1.background = background ∧ p.1.objectType = kind) ∧ TileFits seen p) := by
  rw [layered, if_neg (by simpa using hempty), if_pos hkind]
  refine inverts_bind (fun _ _ => [])
    (fun id p => p.1 = ⟨background, some ⟨kind, id⟩⟩ ∧ TileFits seen p)
    (inverts_raw inverts_byte) (fun id _ => ?_) ?_ fun p => ?_
  · -- An id that was met before belongs to no fresh tile.
    split_ifs with hseen
    · refine inverts_fail ?_
      rintro p ⟨hp, ⟨-, hunseen⟩, -⟩
      rw [hp] at hunseen
      rw [hunseen id rfl] at hseen
      exact absurd hseen (by decide)
    · -- An id that is new makes a sound tile, and only the tile with it has this byte.
      refine inverts_pure (fun p => ?_) rfl
      constructor
      · rintro rfl
        refine ⟨rfl, ⟨⟨hobject, hdelete, ?_⟩, ?_⟩, rfl⟩
        · rintro o ⟨⟩
          exact hkind
        · rintro own ⟨⟩
          exact Bool.eq_false_iff.mpr hseen
      · rintro ⟨hp, -, hids⟩
        rcases p with ⟨t, ids⟩
        simp only at hp hids
        rw [hids, hp]
        rfl
  · -- The id is the one byte behind the layers, so it is all that is written here.
    rintro id p - ⟨hp, -⟩
    rw [hp]
    rfl
  · constructor
    · rintro ⟨⟨hbackground, htype⟩, hp⟩
      -- The layer is of the type of an object, so there is one, and it has some id.
      rcases hp.1.1.object_cases with ⟨hnone, -⟩ | ⟨-, id, hid⟩
      · exact absurd (htype.symm.trans hnone) hempty
      · rw [htype] at hid
        exact ⟨id, trivial, by rw [← hbackground, ← hid], hp⟩
    · -- With the tile given by its id, both layers are what was read for them.
      rintro ⟨id, -, hlayers, hp⟩
      rw [hlayers]
      exact ⟨⟨rfl, rfl⟩, hp⟩

/-- The object layer of a tile whose background is a background, whatever type was
    read for it. -/
theorem inverts_layered (hobject : background.isObject = false)
    (hdelete : background ≠ .delete) (kind : TileType) :
    Inverts (layered background kind x y seen) (fun p => p.1.objectId?.toList)
      (fun p => (p.1.background = background ∧ p.1.objectType = kind) ∧ TileFits seen p) := by
  by_cases hempty : kind = .empty
  · rw [hempty]
    exact inverts_layered_empty x y seen hobject hdelete
  · by_cases hkind : kind.isObject
    · exact inverts_layered_object x y seen hobject hdelete hkind hempty
    · rw [layered, if_neg (by simpa using hempty), if_neg hkind]
      -- Neither nothing nor an object: a background in the object layer.
      refine inverts_fail ?_
      rintro p ⟨⟨-, rfl⟩, ⟨ht, -⟩, -⟩
      rcases ht.object_cases with ⟨hnone, -⟩ | ⟨hobject, -⟩
      · exact hempty hnone
      · exact hkind hobject

end Layered

/-- The reader of a tile undoes the writer on sound tiles without an id that was met
    before, and adds the id to those. -/
theorem inverts_tile (x y : Nat) (seen : IdSet) :
    Inverts (tile x y seen) (fun p => Document.tileBytes p.1) (TileFits seen) := by
  refine inverts_bind (fun _ p => p.1.objectType.byte :: p.1.objectId?.toList)
    (fun background p => p.1.background = background ∧ TileFits seen p)
    (inverts_raw inverts_tileType) (fun background _ => ?_) ?_ fun p => ?_
  · -- Two bytes one after the other, the first of which may be refused already.
    split_ifs with hbad
    · refine inverts_fail ?_
      rintro p ⟨rfl, ⟨ht, -⟩, -⟩
      -- A sound tile has a background in its background layer, so it is never refused.
      simp [ht.background, ht.background_ne_delete] at hbad
    · simp only [Bool.or_eq_true, beq_iff_eq, not_or, Bool.not_eq_true] at hbad
      refine inverts_bind (fun _ p => p.1.objectId?.toList)
        (fun kind p =>
          (p.1.background = background ∧ p.1.objectType = kind) ∧ TileFits seen p)
        (inverts_raw inverts_tileType)
        (fun kind _ => inverts_layered x y seen hbad.1 hbad.2 kind) ?_ fun p => ?_
      · -- Behind the background come the byte of the other layer and the id.
        rintro kind p - ⟨⟨-, rfl⟩, -⟩
        rfl
      · constructor
        · rintro ⟨hbackground, hp⟩
          exact ⟨p.1.objectType, trivial, ⟨hbackground, rfl⟩, hp⟩
        · rintro ⟨kind, -, ⟨hbackground, -⟩, hp⟩
          exact ⟨hbackground, hp⟩
  · rintro background p - ⟨rfl, -⟩
    exact tileBytes_eq p.1
  · exact ⟨fun hp => ⟨p.1.background, trivial, rfl, hp⟩, fun ⟨_, _, _, hp⟩ => hp⟩

/-- The reader of the tiles that are left undoes the writer on tiles that are fresh
    for the ids met before. -/
theorem inverts_tiles (width n : Nat) (done : Array Tile) (seen : IdSet) :
    Inverts (tiles width n done seen)
      (fun p => (p.1.toList.drop done.size).flatMap Document.tileBytes)
      (fun p => ∃ ts, p.1.toList = done.toList ++ ts ∧ ts.length = n ∧ Fresh seen ts ∧
        p.2 = seen.insertIds ts) := by
  -- What was read so far grows with each tile, and so do the ids that were met.
  induction n generalizing done seen with
  | zero =>
      have hdone : done.toList.drop done.size = [] := List.drop_eq_nil_of_le (Nat.le_refl _)
      refine inverts_pure (fun p => ?_) (by rw [hdone, List.flatMap_nil])
      constructor
      · rintro rfl
        exact ⟨[], (List.append_nil _).symm, rfl, fresh_nil seen, rfl⟩
      · -- No tile is left, so what was read is all that there is.
        rintro ⟨ts, hts, hlength, -, hids⟩
        rw [List.length_eq_zero_iff.mp hlength, List.append_nil] at hts
        rw [List.length_eq_zero_iff.mp hlength] at hids
        exact Prod.ext (Array.toList_inj.mp hts.symm) hids.symm
  | succ n ih =>
      refine inverts_bind
        (fun q p => (p.1.toList.drop (done.push q.1).size).flatMap Document.tileBytes)
        (fun q p => ∃ ts, p.1.toList = (done.push q.1).toList ++ ts ∧ ts.length = n ∧
          Fresh q.2 ts ∧ p.2 = q.2.insertIds ts)
        (inverts_tile _ _ seen) (fun q _ => ih (done.push q.1) q.2) ?_ fun p => ?_
      · -- The bytes of the tiles that are left begin with those of the next.
        rintro ⟨t, seen'⟩ p - ⟨ts, hts, -⟩
        simp only [Array.toList_push, Array.size_push] at hts ⊢
        have hdone : done.size = done.toList.length := rfl
        have hpushed : done.size + 1 = (done.toList ++ [t]).length := by simp
        rw [hts, List.drop_left' hpushed.symm, List.append_assoc, List.drop_left' hdone.symm,
          List.singleton_append, List.flatMap_cons]
      · constructor
        · -- The next tile is the first of those that are left, and its id is met by the others.
          rintro ⟨ts, hts, hlength, hfresh, hids⟩
          rcases List.exists_cons_of_length_eq_add_one hlength with ⟨t, ts, rfl⟩
          rw [fresh_cons_iff] at hfresh
          rw [insertIds_cons] at hids
          refine ⟨(t, seen.insertIds [t]), ⟨hfresh.1, rfl⟩, ts, ?_, by simpa using hlength,
            hfresh.2, hids⟩
          rw [Array.toList_push, List.append_assoc, List.singleton_append, hts]
        · rintro ⟨⟨t, seen'⟩, ⟨ht, hseen⟩, ts, hts, rfl, hfresh, hids⟩
          simp only at ht hseen hfresh hids
          rw [hseen] at hfresh hids
          refine ⟨t :: ts, ?_, rfl, fresh_cons_iff.mpr ⟨ht, hfresh⟩, ?_⟩
          · rw [hts, Array.toList_push, List.append_assoc, List.singleton_append]
          · rw [insertIds_cons, hids]

/-- The header and the tiles are read back from the bytes of a sound grid, with the set
    of its ids, and from no others. -/
theorem inverts_grid :
    Inverts grid (fun p => p.1.bytes) (fun p => p.1.Sound ∧ p.2 = .ofList p.1.objectIds) := by
  refine inverts_bind
    (fun _ p => UInt8.ofNat p.1.height :: p.1.tiles.toList.flatMap Document.tileBytes)
    (fun width p => p.1.width = width.toNat ∧ p.1.Sound ∧ p.2 = .ofList p.1.objectIds)
    (inverts_raw inverts_byte) (fun width _ => ?_) ?_ fun p => ?_
  · refine inverts_bind
      (fun _ p => p.1.tiles.toList.flatMap Document.tileBytes)
      (fun height p => p.1.height = height.toNat ∧ p.1.width = width.toNat ∧
        p.1.Sound ∧ p.2 = .ofList p.1.objectIds)
      (inverts_raw inverts_byte) (fun height _ => ?_) ?_ fun p => ?_
    · simp only
      split
      · -- A size out of bounds is refused, and no sound grid has one.
        rename_i error herror
        refine inverts_fail ?_
        rintro p ⟨hheight, hwidth, hsound, -⟩
        have hnone := hsound.dimensions
        rw [hheight, hwidth, herror] at hnone
        exact absurd hnone (by simp only [reduceCtorEq, not_false_eq_true])
      · rename_i hdimensions
        refine inverts_bind (fun _ _ => [])
          (fun q p => (⟨width.toNat, height.toNat, q.1⟩, q.2) = p)
          (inverts_tiles _ _ _ _) (fun q _ => inverts_pure (fun p => Iff.rfl) rfl) ?_ fun p => ?_
        · rintro q p - rfl
          rw [List.append_nil]
          rfl
        · simp only [Grid.sound_iff, List.nil_append]
          constructor
          · rintro ⟨hheight, hwidth, ⟨-, hlength, hfresh⟩, hids⟩
            rw [hheight, hwidth] at hlength
            refine ⟨(p.1.tiles, p.2), ⟨_, rfl, hlength, hfresh, hids⟩, ?_⟩
            rw [← hheight, ← hwidth]
          · rintro ⟨q, ⟨ts, rfl, hlength, hfresh, hids⟩, rfl⟩
            exact ⟨rfl, rfl, ⟨hdimensions, hlength, hfresh⟩, hids⟩
    · -- The bytes of a size are those that it was read from.
      rintro height p - ⟨hheight, -⟩
      rw [hheight, UInt8.ofNat_toNat]
      rfl
    · constructor
      · rintro ⟨hwidth, hsound, hids⟩
        -- The height is within a byte, so the byte that is written tells it.
        have hle := (dimensionError?_eq_none_iff.mp hsound.dimensions).2.2
        have hbyte : (UInt8.ofNat p.1.height).toNat = p.1.height :=
          UInt8.toNat_ofNat_of_lt' (Nat.lt_succ_of_le hle)
        exact ⟨UInt8.ofNat p.1.height, trivial, hbyte.symm, hwidth, hsound, hids⟩
      · rintro ⟨height, -, -, hp⟩
        exact hp
  · rintro width p - ⟨hwidth, -⟩
    rw [Grid.bytes, hwidth, UInt8.ofNat_toNat]
    rfl
  · constructor
    · -- So is the width, for the same reason.
      rintro ⟨hsound, hids⟩
      have hle := (dimensionError?_eq_none_iff.mp hsound.dimensions).1.2
      have hbyte : (UInt8.ofNat p.1.width).toNat = p.1.width :=
        UInt8.toNat_ofNat_of_lt' (Nat.lt_succ_of_le hle)
      exact ⟨UInt8.ofNat p.1.width, trivial, hbyte.symm, hsound, hids⟩
    · rintro ⟨width, -, -, hp⟩
      exact hp

end Read

end TileTriggers
