import TileTriggers.Map.Document
import Mathlib.Data.List.Nodup
import Mathlib.Data.List.OfFn
import Mathlib.Tactic.SplitIfs

/-!
# Sound Grids

A grid is sound when it has a size that a map may have and as many tiles as that
size asks for, keeps backgrounds and objects in their layers, and gives no id to two
tiles. Painting changes one tile and resizing moves all of them, and both keep a
grid sound.

A change of one tile is seen as a cut of the row of tiles: what stands before the
tile and behind it is the same afterwards. All that can go wrong is then about the
one tile, and its id is either the one it had or new to the grid.

Resizing is seen through positions. Two positions of the new grid that both lie on
the old one come from two positions there, so an id that occurs twice afterwards
would have occurred twice before.

## Main definitions

* `Tile.Sound`: A tile that keeps its layers.
* `Grid.Sound`: A grid that a map can have.

## Theorems

* `dimensionError?_eq_none_iff`: The sizes that a map can have.
* `Tile.Sound.object_cases`: What the object layer of a sound tile holds.
* `Grid.position_inj`: Coordinates and positions in the row of tiles determine each other.
* `Grid.get?_modify_self`, `Grid.get?_modify_of_ne`: The tiles after a change of one.
* `Grid.exists_split`: A change of one tile leaves the others alone.
* `Grid.sound_modify`, `Grid.mem_objectIds_modify`: One tile changed.
* `Grid.sound_resized`, `Grid.mem_objectIds_of_resized`: All tiles moved.
* `Grid.sound_blank`: Nothing on the grid.
-/

namespace TileTriggers

theorem dimensionError?_eq_none_iff {width height : Nat} :
    dimensionError? width height = none ↔
      (1 ≤ width ∧ width ≤ maxDimension) ∧ 1 ≤ height ∧ height ≤ maxDimension := by
  unfold dimensionError?
  split_ifs with hwidth hheight
  · simp only [false_iff]
    omega
  · simp only [false_iff]
    omega
  · simp only [true_iff]
    omega

/-- An optional element between others repeats nothing when the others do not and it
    is none of them. -/
theorem nodup_append_toList_append {α : Type} {o : Option α} {as bs : List α} :
    (as ++ (o.toList ++ bs)).Nodup ↔ (as ++ bs).Nodup ∧ ∀ a, o = some a → a ∉ as ++ bs := by
  cases o with
  | none => simp
  | some a =>
      rw [Option.toList_some, List.singleton_append, List.nodup_middle, List.nodup_cons, and_comm]
      simp only [Option.some.injEq, forall_eq']

/-- A tile with a background in its background layer and, if anything, an object in
    its object layer. -/
structure Tile.Sound (t : Tile) : Prop where
  background : t.background.isObject = false
  background_ne_delete : t.background ≠ .delete
  object : ∀ o ∈ t.object, o.kind.isObject

/-- The object layer of a sound tile: nothing, or an object with an id. -/
theorem Tile.Sound.object_cases {t : Tile} (ht : t.Sound) :
    t.objectType = .empty ∧ t.object = none ∨
      t.objectType.isObject ∧ ∃ id, t.object = some ⟨t.objectType, id⟩ := by
  have hobject := ht.object
  rw [Tile.objectType]
  cases h : t.object with
  | none => exact Or.inl ⟨rfl, rfl⟩
  | some o => exact Or.inr ⟨hobject o h, o.id, rfl⟩

theorem Tile.sound_blank : Tile.blank.Sound :=
  ⟨by decide, by decide, by simp [Tile.blank]⟩

/-- A grid that a map can have. -/
structure Grid.Sound (g : Grid) : Prop where
  dimensions : dimensionError? g.width g.height = none
  size : g.tiles.size = g.width * g.height
  tiles : ∀ t ∈ g.tiles.toList, t.Sound
  distinct : g.objectIds.Nodup

namespace Grid

variable {g : Grid} {x y : Nat} {t : Tile} {f : Tile → Tile}

theorem get?_eq_some_iff :
    g.get? x y = some t ↔ (x < g.width ∧ y < g.height) ∧ g.tiles[y * g.width + x]? = some t := by
  rw [get?, inside]
  split_ifs with h
  · simp only [Bool.and_eq_true, decide_eq_true_eq] at h
    simp only [h, and_self, true_and]
  · simp only [Bool.and_eq_true, decide_eq_true_eq] at h
    simp only [h, false_and]

theorem get?_eq_none_iff (hg : g.Sound) :
    g.get? x y = none ↔ g.width ≤ x ∨ g.height ≤ y := by
  rw [get?, inside]
  split_ifs with h
  · simp only [Bool.and_eq_true, decide_eq_true_eq] at h
    -- Inside the bounds there are as many tiles as the size asks for.
    have hrow : y * g.width + g.width ≤ g.height * g.width := by
      rw [← Nat.succ_mul]
      exact Nat.mul_le_mul_right _ h.2
    rw [Array.getElem?_eq_none_iff, hg.size, Nat.mul_comm]
    omega
  · simp only [Bool.and_eq_true, decide_eq_true_eq] at h
    simp only [true_iff]
    omega

theorem mem_of_get? (h : g.get? x y = some t) : t ∈ g.tiles.toList := by
  rw [Array.mem_toList_iff]
  exact Array.mem_of_getElem? (get?_eq_some_iff.mp h).2

theorem mem_objectIds_of_get? {id : UInt8} (h : g.get? x y = some t)
    (hid : t.objectId? = some id) : id ∈ g.objectIds :=
  List.mem_filterMap.mpr ⟨t, mem_of_get? h, hid⟩

theorem modify_eq_of_get? (h : g.get? x y = some t) :
    g.modify x y f = { g with tiles := g.tiles.modify (y * g.width + x) f } := by
  have hinside : g.inside x y = true := by
    simpa [inside] using (get?_eq_some_iff.mp h).1
  rw [modify, if_pos hinside]

/-- The position in the row of tiles tells the column and the row. -/
theorem position_inj {width x' y' : Nat} (hx : x < width) (hx' : x' < width)
    (h : y * width + x = y' * width + x') : x = x' ∧ y = y' := by
  -- The column is the remainder of the position, and the row is the quotient.
  have hcolumn := congrArg (· % width) h
  have hrow := congrArg (· / width) h
  simp only [Nat.mul_add_mod_of_lt hx, Nat.mul_add_mod_of_lt hx'] at hcolumn
  have hpos : 0 < width := by omega
  simp only [Nat.mul_comm _ width, Nat.mul_add_div hpos, Nat.div_eq_of_lt hx,
    Nat.div_eq_of_lt hx', Nat.add_zero] at hrow
  exact ⟨hcolumn, hrow⟩

theorem get?_modify_self (h : g.get? x y = some t) : (g.modify x y f).get? x y = some (f t) := by
  rcases get?_eq_some_iff.mp h with ⟨hinside, htile⟩
  rw [modify_eq_of_get? h, get?_eq_some_iff]
  refine ⟨hinside, ?_⟩
  simp only [Array.getElem?_modify, htile, if_true, Option.map_some]

/-- A change of one tile leaves the tile at any other coordinates alone. -/
theorem get?_modify_of_ne (h : g.get? x y = some t) {a b : Nat} (hne : (a, b) ≠ (x, y)) :
    (g.modify x y f).get? a b = g.get? a b := by
  rw [modify_eq_of_get? h, get?, get?]
  change (if g.inside a b then _ else _) = _
  -- Outside the grid there is no tile, before the change and after it.
  by_cases hinside : g.inside a b = true
  · rw [if_pos hinside, if_pos hinside]
    simp only [inside, Bool.and_eq_true, decide_eq_true_eq] at hinside
    -- Inside, other coordinates are another position in the row of tiles.
    have hposition : y * g.width + x ≠ b * g.width + a := by
      intro heq
      rcases position_inj (get?_eq_some_iff.mp h).1.1 hinside.1 heq with ⟨rfl, rfl⟩
      exact hne rfl
    exact Array.getElem?_modify.trans (if_neg hposition)
  · rw [if_neg hinside, if_neg hinside]

/-- A tile stands somewhere in the row of tiles, and a change of it leaves alone what
    is before and behind it. -/
theorem exists_split (h : g.get? x y = some t) :
    ∃ before behind, g.tiles.toList = before ++ t :: behind ∧
      ∀ f, (g.modify x y f).tiles.toList = before ++ f t :: behind := by
  -- Before it and behind it are the tiles up to its position and those from the next on.
  have htile : g.tiles.toList[y * g.width + x]? = some t := by
    rw [Array.getElem?_toList]
    exact (get?_eq_some_iff.mp h).2
  rcases List.getElem?_eq_some_iff.mp htile with ⟨hlt, rfl⟩
  refine ⟨g.tiles.toList.take (y * g.width + x), g.tiles.toList.drop (y * g.width + x + 1), ?_,
    fun f => ?_⟩
  · rw [List.getElem_cons_drop, List.take_append_drop]
  · rw [modify_eq_of_get? h, Array.toList_modify, List.modify_eq_take_cons_drop hlt]

theorem width_modify : (g.modify x y f).width = g.width := by
  rw [modify]
  split_ifs <;> rfl

theorem height_modify : (g.modify x y f).height = g.height := by
  rw [modify]
  split_ifs <;> rfl

theorem objectIds_eq_of_split {before behind : List Tile}
    (h : g.tiles.toList = before ++ t :: behind) :
    g.objectIds = before.filterMap Tile.objectId? ++
      (t.objectId?.toList ++ behind.filterMap Tile.objectId?) := by
  rw [objectIds, h, List.filterMap_append, List.filterMap_cons]
  cases t.objectId? <;> rfl

/-- An id is on the changed grid when it was on another tile than the changed one, or
    is on that tile now. -/
theorem mem_objectIds_modify (hg : g.Sound) (h : g.get? x y = some t) {id : UInt8} :
    id ∈ (g.modify x y f).objectIds ↔
      id ∈ g.objectIds ∧ t.objectId? ≠ some id ∨ (f t).objectId? = some id := by
  rcases exists_split h with ⟨before, behind, htiles, hchanged⟩
  have hdistinct := hg.distinct
  rw [objectIds_eq_of_split htiles] at hdistinct ⊢
  rw [objectIds_eq_of_split (hchanged f)]
  -- The id of the tile is none of the others, so it is gone with the tile.
  have hothers := (nodup_append_toList_append.mp hdistinct).2 id
  simp only [List.mem_append, Option.mem_toList] at hothers ⊢
  tauto

/-- A change that keeps the id of its tile keeps the ids of the grid. -/
theorem mem_objectIds_modify_of_eq (hg : g.Sound) (h : g.get? x y = some t)
    (hid : (f t).objectId? = t.objectId?) {id : UInt8} :
    id ∈ (g.modify x y f).objectIds ↔ id ∈ g.objectIds := by
  rw [mem_objectIds_modify hg h, hid]
  -- The id of the tile was on the grid before, so it comes and goes with neither side.
  have hmem : t.objectId? = some id → id ∈ g.objectIds := mem_objectIds_of_get? h
  tauto

/-- A changed tile keeps the grid sound if it is sound and its id is the one it had
    or new to the grid. -/
theorem sound_modify (hg : g.Sound) (h : g.get? x y = some t) (ht : (f t).Sound)
    (hid : ∀ id, (f t).objectId? = some id → t.objectId? = some id ∨ id ∉ g.objectIds) :
    (g.modify x y f).Sound := by
  rcases exists_split h with ⟨before, behind, htiles, hchanged⟩
  have hdistinct := hg.distinct
  rw [objectIds_eq_of_split htiles] at hid hdistinct
  rcases nodup_append_toList_append.mp hdistinct with ⟨hothers, hold⟩
  constructor
  · rw [width_modify, height_modify]
    exact hg.dimensions
  · rw [modify_eq_of_get? h, Array.size_modify]
    exact hg.size
  · -- The tiles before and behind are those of the sound grid.
    intro other hother
    have hall := hg.tiles
    rw [htiles] at hall
    rw [hchanged, List.mem_append, List.mem_cons] at hother
    rcases hother with hother | rfl | hother
    · exact hall other (List.mem_append_left _ hother)
    · exact ht
    · exact hall other (List.mem_append_right _ (List.mem_cons_of_mem _ hother))
  · rw [objectIds_eq_of_split (hchanged f), nodup_append_toList_append]
    -- An id that another tile has is neither the one from before nor new.
    refine ⟨hothers, fun id hchangedId hmem => ?_⟩
    rcases hid id hchangedId with hsame | hnew
    · exact hold id hsame hmem
    · refine hnew ?_
      simp only [List.mem_append] at hmem ⊢
      tauto

theorem objectIds_blank (width height : Nat) : (blank width height).objectIds = [] := by
  rw [objectIds, blank, Array.toList_replicate, List.filterMap_replicate_of_none rfl]

theorem sound_blank {width height : Nat} (h : dimensionError? width height = none) :
    (blank width height).Sound where
  dimensions := h
  size := Array.size_replicate
  tiles t ht := by
    rw [blank, Array.toList_replicate, List.mem_replicate] at ht
    rw [ht.2]
    exact Tile.sound_blank
  distinct := by
    rw [objectIds_blank]
    exact List.nodup_nil

section Resized

variable {width height : Nat}

theorem toList_resized : (g.resized width height).tiles.toList =
    List.ofFn fun i : Fin (width * height) =>
      (g.get? (i % width) (i / width)).getD .blank := by
  rw [resized, Array.toList_ofFn]

/-- What is on a resized grid was on the old one or is blank. -/
theorem exists_get?_of_objectId? {id : UInt8}
    (h : ((g.get? x y).getD .blank).objectId? = some id) :
    ∃ t, g.get? x y = some t ∧ t.objectId? = some id := by
  -- A blank tile has no id, so there was a tile.
  cases hget : g.get? x y with
  | none =>
      rw [hget] at h
      exact absurd h (by simp [Tile.blank, Tile.objectId?])
  | some t =>
      rw [hget] at h
      exact ⟨t, rfl, h⟩

theorem mem_objectIds_of_resized {id : UInt8} (h : id ∈ (g.resized width height).objectIds) :
    id ∈ g.objectIds := by
  rw [objectIds, toList_resized, List.mem_filterMap] at h
  rcases h with ⟨moved, hmoved, hid⟩
  rcases List.mem_ofFn.mp hmoved with ⟨i, rfl⟩
  rcases exists_get?_of_objectId? hid with ⟨t, hget, ht⟩
  exact mem_objectIds_of_get? hget ht

/-- An id is on one tile only, so it tells where that tile is. -/
theorem coordinates_unique (hg : g.Sound) {x' y' : Nat} {t' : Tile} {id : UInt8}
    (h : g.get? x y = some t) (h' : g.get? x' y' = some t') (hid : t.objectId? = some id)
    (hid' : t'.objectId? = some id) : x = x' ∧ y = y' := by
  rcases get?_eq_some_iff.mp h with ⟨⟨hx, -⟩, htile⟩
  rcases get?_eq_some_iff.mp h' with ⟨⟨hx', -⟩, htile'⟩
  rw [← Array.getElem?_toList, List.getElem?_eq_some_iff] at htile htile'
  rcases htile with ⟨hlt, rfl⟩
  rcases htile' with ⟨hlt', rfl⟩
  have hdistinct := hg.distinct
  rw [objectIds, List.Nodup, List.pairwise_filterMap, List.pairwise_iff_getElem] at hdistinct
  -- The ids are told apart by position, so two positions cannot have the same.
  have hindex : y * g.width + x = y' * g.width + x' := by
    rcases Nat.lt_trichotomy (y * g.width + x) (y' * g.width + x') with hlow | heq | hhigh
    · exact absurd rfl (hdistinct _ _ hlt hlt' hlow id hid id hid')
    · exact heq
    · exact absurd rfl (hdistinct _ _ hlt' hlt hhigh id hid' id hid)
  exact position_inj hx hx' hindex

theorem sound_resized (hg : g.Sound) (h : dimensionError? width height = none) :
    (g.resized width height).Sound where
  dimensions := h
  size := Array.size_ofFn
  tiles moved hmoved := by
    rw [toList_resized] at hmoved
    rcases List.mem_ofFn.mp hmoved with ⟨i, rfl⟩
    -- Each tile is one of the old grid or blank, and both are sound.
    cases hget : g.get? (i % width) (i / width) with
    | none => exact Tile.sound_blank
    | some t => exact hg.tiles t (mem_of_get? hget)
  distinct := by
    rw [objectIds, toList_resized, List.Nodup, List.pairwise_filterMap, List.pairwise_ofFn]
    rintro i j hij id hi id' hj rfl
    -- Two positions with one id lie on the same tile of the old grid.
    rcases exists_get?_of_objectId? hi with ⟨t, hget, ht⟩
    rcases exists_get?_of_objectId? hj with ⟨t', hget', ht'⟩
    rcases coordinates_unique hg hget hget' ht ht' with ⟨hcolumn, hrow⟩
    have hi := Nat.div_add_mod i.val width
    have hj := Nat.div_add_mod j.val width
    -- Same row and same column is the same position, and they were taken to differ.
    rw [hcolumn, hrow, hj] at hi
    exact absurd hi (Nat.ne_of_gt hij)

end Resized

end Grid

end TileTriggers
