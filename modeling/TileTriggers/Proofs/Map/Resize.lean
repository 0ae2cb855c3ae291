import TileTriggers.Proofs.Map.Invariant

/-!
# Changing the Size of a Map

What a map looks like in another size. A position in the row of tiles belongs to
different coordinates before and after, since the two widths differ, and `get?_resized` is
where this is settled: in coordinates a tile stays where it is, and all that the new size
decides is whether it is still there. What else is to be known of a resized grid is read
off that one equation.

So it goes with two changes in a row. The second cannot bring back what the first has cut
off, and the first can only cut off what the second would have cut off too if it leaves as
much as the second wants of what is there. Whatever it adds beyond is blank, as are the
tiles that the second adds.

The pool is not told which tiles are cut off. It is reconciled with what is left of the
map, and that these are the same ids in the end needs a sound document: an id that is cut
off with one tile is on no other, and no id is in use that neither a tile nor a spawn
entry has.

## Main definitions

* `Grid.CutOff`: The ids on tiles that a new size leaves no room for.
* `Document.ResizeEffect`: What a change of the size does.

## Theorems

* `Grid.get?_resized`: A tile of a resized grid.
* `Grid.resized_resized`: Two changes in a row.
* `Grid.cutOff_iff`: The ids that the grid loses.
* `Document.resize_eq_error_iff`: When a size is refused, and why.
* `Document.resizeEffect_of_ok`: What a change of the size does.
* `Document.resize_after_resize`: A change of the size after another one.
* `Document.Reachable.resize_effect`: All that changing the size does.
-/

namespace TileTriggers

namespace Grid

variable {g : Grid} {x y width height : Nat} {id : UInt8}

theorem position_lt (hx : x < width) (hy : y < height) : y * width + x < width * height := by
  have hrow : y * width + width ≤ height * width := by
    rw [← Nat.succ_mul]
    exact Nat.mul_le_mul_right width hy
  rw [Nat.mul_comm width height]
  omega

theorem get?_eq_none_of_outside (h : g.width ≤ x ∨ g.height ≤ y) : g.get? x y = none := by
  have hinside : ¬ g.inside x y = true := by
    rw [inside, Bool.and_eq_true, decide_eq_true_eq, decide_eq_true_eq]
    omega
  rw [get?, if_neg hinside]

/-- A tile of a resized grid is the one that was there before, or it is blank. -/
theorem get?_resized : (g.resized width height).get? x y =
    if x < width ∧ y < height then some ((g.get? x y).getD .blank) else none := by
  by_cases h : x < width ∧ y < height
  · have hinside : (g.resized width height).inside x y = true := by
      rw [inside, Bool.and_eq_true, decide_eq_true_eq, decide_eq_true_eq]
      exact h
    -- The position belongs to the same coordinates as before when read with the new width.
    have hcolumn : (y * width + x) % width = x := Nat.mul_add_mod_of_lt h.1
    have hrow : (y * width + x) / width = y := by
      rw [Nat.mul_comm, Nat.mul_add_div (by omega), Nat.div_eq_of_lt h.1, Nat.add_zero]
    rw [if_pos h, get?, if_pos hinside]
    simp only [resized, Array.getElem?_ofFn, position_lt h.1 h.2, dif_pos, hcolumn, hrow]
  · -- Outside of the new size there is no tile, whatever was there.
    rw [if_neg h]
    refine get?_eq_none_of_outside ?_
    simp only [resized]
    omega

/-- Two changes of the size are one, if the first leaves as much of the grid as the second
    asks for. -/
theorem resized_resized {width' height' : Nat} (hwidth : min g.width width ≤ width')
    (hheight : min g.height height ≤ height') :
    (g.resized width' height').resized width height = g.resized width height := by
  have htile : ∀ x y, x < width → y < height →
      ((g.resized width' height').get? x y).getD .blank = (g.get? x y).getD .blank := by
    intro x y hx hy
    rw [get?_resized]
    by_cases h : x < width' ∧ y < height'
    · rw [if_pos h, Option.getD_some]
    · -- What the first change has cut off was not there.
      have hnone : g.get? x y = none := get?_eq_none_of_outside (by omega)
      rw [if_neg h, hnone]
  rw [resized, resized, mk.injEq]
  refine ⟨rfl, rfl, congrArg Array.ofFn (funext fun i => htile _ _ ?_ ?_)⟩
  · exact Nat.mod_lt _ (Nat.pos_of_mul_pos_right (Nat.zero_lt_of_lt i.isLt))
  · exact Nat.div_lt_of_lt_mul i.isLt

/-- The ids on a grid are those of the tiles that it has at some coordinates. -/
theorem mem_objectIds_iff (hg : g.Sound) :
    id ∈ g.objectIds ↔ ∃ x y t, g.get? x y = some t ∧ t.objectId? = some id := by
  constructor
  · intro h
    rcases List.mem_filterMap.mp h with ⟨t, ht, hid⟩
    -- A tile stands at a position, and the position is read as its column and its row.
    rcases List.getElem_of_mem ht with ⟨i, hi, htile⟩
    rw [Array.length_toList, hg.size] at hi
    refine ⟨i % g.width, i / g.width, t, get?_eq_some_iff.mpr ⟨⟨?_, ?_⟩, ?_⟩, hid⟩
    · exact Nat.mod_lt _ (Nat.pos_of_mul_pos_right (Nat.zero_lt_of_lt hi))
    · exact Nat.div_lt_of_lt_mul hi
    · rw [Nat.mul_comm, Nat.div_add_mod, ← htile, Array.getElem_toList,
        Array.getElem?_eq_getElem]
  · intro h
    rcases h with ⟨x, y, t, hget, hid⟩
    exact mem_objectIds_of_get? hget hid

/-- An id is on a tile that a new size leaves no room for. -/
def CutOff (g : Grid) (width height : Nat) (id : UInt8) : Prop :=
  ∃ x y t, (width ≤ x ∨ height ≤ y) ∧ g.get? x y = some t ∧ t.objectId? = some id

/-- A resized grid loses the ids on tiles that are cut off, and no others. -/
theorem cutOff_iff (hg : g.Sound) (h : dimensionError? width height = none) :
    g.CutOff width height id ↔ id ∈ g.objectIds ∧ id ∉ (g.resized width height).objectIds := by
  rw [mem_objectIds_iff hg, mem_objectIds_iff (sound_resized hg h)]
  constructor
  · intro hcut
    rcases hcut with ⟨x, y, t, hout, hget, hid⟩
    refine ⟨⟨x, y, t, hget, hid⟩, ?_⟩
    -- The id is on one tile only, and that one is gone.
    intro hleft
    rcases hleft with ⟨x', y', t', hget', hid'⟩
    rw [get?_resized] at hget'
    split_ifs at hget' with hinside
    · rw [← Option.some.inj hget'] at hid'
      rcases exists_get?_of_objectId? hid' with ⟨t'', hget'', hid''⟩
      rcases coordinates_unique hg hget hget'' hid hid'' with ⟨hx, hy⟩
      omega
  · intro hlost
    rcases hlost with ⟨⟨x, y, t, hget, hid⟩, hgone⟩
    -- An id that is gone was on a tile, and that one is not among those that stay.
    by_cases hout : width ≤ x ∨ height ≤ y
    · exact ⟨x, y, t, hout, hget, hid⟩
    · refine absurd ⟨x, y, t, ?_, hid⟩ hgone
      rw [get?_resized, hget, Option.getD_some, if_pos (by omega)]

end Grid

theorem dimensionError?_eq_some_iff {width height : Nat} {e : CapacityError} :
    dimensionError? width height = some e ↔
      e = .width width ∧ ¬ (1 ≤ width ∧ width ≤ maxDimension) ∨
      e = .height height ∧ (1 ≤ width ∧ width ≤ maxDimension) ∧
        ¬ (1 ≤ height ∧ height ≤ maxDimension) := by
  -- The width is looked at first, and the height only if the width is in bounds.
  by_cases hwidth : 1 ≤ width ∧ width ≤ maxDimension
  · by_cases hheight : 1 ≤ height ∧ height ≤ maxDimension
    · have hnone := dimensionError?_eq_none_iff.mpr ⟨hwidth, hheight⟩
      simp [hnone, hwidth, hheight]
    · have hsome : dimensionError? width height = some (.height height) := by
        rw [dimensionError?, if_neg (by omega), if_pos (by omega)]
      simp [hsome, hwidth, hheight, eq_comm]
  · have hsome : dimensionError? width height = some (.width width) := by
      rw [dimensionError?, if_pos (by omega)]
    simp [hsome, hwidth, eq_comm]

namespace Document

variable {d : Document} {width height : Nat}

theorem resize_eq_error_iff {e : CapacityError} :
    d.resize width height = .error e ↔ dimensionError? width height = some e := by
  rw [resize]
  cases dimensionError? width height <;> simp

theorem after_resize_of_error {e : CapacityError} (h : d.resize width height = .error e) :
    d.after (.resize width height) = d := by
  rw [after, apply, h]
  rfl

theorem after_resize_of_ok {resized : Logged Document}
    (h : d.resize width height = .ok resized) :
    d.after (.resize width height) = resized.value := by
  rw [after, apply, h]
  rfl

theorem grid_of_resize {resized : Logged Document} (h : d.resize width height = .ok resized) :
    resized.value.grid = d.grid.resized width height := by
  rw [(resize_eq_ok_iff.mp h).2]
  rfl

/-- What a change of the size does. A tile for which there is room stays where it is, and
    all others are blank. The ids that are lost are those on tiles that are cut off, unless
    a spawn entry names them, and nothing else changes. -/
structure ResizeEffect (d : Document) (width height : Nat) (d' : Document) : Prop where
  width_eq : d'.grid.width = width
  height_eq : d'.grid.height = height
  kept : ∀ x y, x < min width d.grid.width → y < min height d.grid.height →
    ∃ t, d.grid.get? x y = some t ∧ d'.grid.get? x y = some t
  blank : ∀ x y, x < width → y < height → d.grid.width ≤ x ∨ d.grid.height ≤ y →
    d'.grid.get? x y = some .blank
  ids : ∀ id, d'.ids.contains id = true ↔
    d.ids.contains id = true ∧ ¬ (d.grid.CutOff width height id ∧ id ∉ d.spawnIds)
  probe : d'.ids.probe = d.ids.probe
  lines : d'.lines = d.lines
  warnings : d'.warnings = d.warnings

/-- A change of the size has its effect on every sound document. -/
theorem resizeEffect_of_ok (hd : d.Sound) {resized : Logged Document}
    (h : d.resize width height = .ok resized) : ResizeEffect d width height resized.value := by
  rcases resize_eq_ok_iff.mp h with ⟨hdimensions, hresized⟩
  have hgrid := grid_of_resize h
  have hlines : resized.value.lines = d.lines := by
    rw [hresized]
    rfl
  constructor
  · rw [hgrid]
    rfl
  · rw [hgrid]
    rfl
  · intro x y hx hy
    rw [hgrid, Grid.get?_resized, if_pos (by omega)]
    cases hget : d.grid.get? x y with
    | none =>
        -- There is a tile, since the cell lies on the old grid as well.
        have hout := (Grid.get?_eq_none_iff hd.grid).mp hget
        omega
    | some t => exact ⟨t, rfl, rfl⟩
  · intro x y hx hy hout
    -- Where the old grid has no tile the new one is blank.
    rw [hgrid, Grid.get?_resized, if_pos ⟨hx, hy⟩, Grid.get?_eq_none_of_outside hout]
    rfl
  · intro id
    -- Both documents are sound, so their grids and the spawn entries tell the ids in use.
    have hleft : id ∈ (d.grid.resized width height).objectIds → id ∈ d.grid.objectIds :=
      Grid.mem_objectIds_of_resized
    rw [(sound_resize hd h).ids, hd.ids, hgrid, spawnIds_congr hlines,
      Grid.cutOff_iff hd.grid hdimensions]
    tauto
  · rw [hresized]
    rfl
  · exact hlines
  · rw [hresized]
    rfl

/-- A sound document is determined by its grid, its lines, its warnings and the probe. -/
theorem Sound.eq_of_parts {d' : Document} (hd : d.Sound) (hd' : d'.Sound)
    (hgrid : d'.grid = d.grid) (hlines : d'.lines = d.lines)
    (hprobe : d'.ids.probe = d.ids.probe) (hwarnings : d'.warnings = d.warnings) : d' = d := by
  have hused := hd.used_congr hd' hgrid (scripts_congr hlines)
  rcases d with ⟨grid, lines, ⟨probe, used⟩, warnings⟩
  rcases d' with ⟨grid', lines', ⟨probe', used'⟩, warnings'⟩
  simp only at hgrid hlines hprobe hwarnings hused
  rw [hgrid, hlines, hprobe, hwarnings, hused]

/-- A change of the size makes no difference to a later one if it leaves as much of the
    grid as the later one asks for. -/
theorem resize_after_resize (hd : d.Sound) {width' height' : Nat}
    (hwidth : min d.grid.width width ≤ width') (hheight : min d.grid.height height ≤ height')
    {straight : Logged Document} (h : d.resize width height = .ok straight) :
    ∃ again, (d.after (.resize width' height')).resize width height = .ok again ∧
      again.value = straight.value := by
  -- A first change that is refused leaves the map for the second as it was.
  cases hfirst : d.resize width' height' with
  | error e =>
      rw [after_resize_of_error hfirst]
      exact ⟨straight, h, rfl⟩
  | ok first =>
      have hsecond : first.value.resize width height =
          .ok { first.value with grid := first.value.grid.resized width height }.reconcile :=
        resize_eq_ok_iff.mpr ⟨(resize_eq_ok_iff.mp h).1, rfl⟩
      have hfirstSound := sound_resize hd hfirst
      have hfirstEffect := resizeEffect_of_ok hd hfirst
      have hsecondEffect := resizeEffect_of_ok hfirstSound hsecond
      have hstraightEffect := resizeEffect_of_ok hd h
      rw [after_resize_of_ok hfirst]
      refine ⟨_, hsecond, ?_⟩
      -- The ids in use are settled by soundness, the other parts one by one.
      refine (sound_resize hd h).eq_of_parts (sound_resize hfirstSound hsecond) ?_ ?_ ?_ ?_
      · rw [grid_of_resize hsecond, grid_of_resize hfirst, grid_of_resize h]
        exact Grid.resized_resized hwidth hheight
      · rw [hsecondEffect.lines, hfirstEffect.lines, hstraightEffect.lines]
      · rw [hsecondEffect.probe, hfirstEffect.probe, hstraightEffect.probe]
      · rw [hsecondEffect.warnings, hfirstEffect.warnings, hstraightEffect.warnings]

/-- Changing the size of a map. A size is refused exactly when its width or else its height
    is none that a map can have, and then nothing changes. Otherwise the change has its
    effect, and it is the same if another change went before that leaves as much of the
    grid as is asked for. -/
theorem Reachable.resize_effect (h : d.Reachable) (width height : Nat) :
    (∀ e, d.resize width height = .error e ↔
      e = .width width ∧ ¬ (1 ≤ width ∧ width ≤ 255) ∨
      e = .height height ∧ (1 ≤ width ∧ width ≤ 255) ∧ ¬ (1 ≤ height ∧ height ≤ 255)) ∧
    (∀ e, d.resize width height = .error e → d.after (.resize width height) = d) ∧
    (∀ resized, d.resize width height = .ok resized →
      d.after (.resize width height) = resized.value ∧
        ResizeEffect d width height resized.value) ∧
    ∀ width' height' straight, min d.grid.width width ≤ width' →
      min d.grid.height height ≤ height' → d.resize width height = .ok straight →
      ∃ again, (d.after (.resize width' height')).resize width height = .ok again ∧
        again.value = straight.value := by
  refine ⟨fun e => ?_, fun e => after_resize_of_error, fun resized hresized => ?_, ?_⟩
  · rw [resize_eq_error_iff]
    exact dimensionError?_eq_some_iff
  · exact ⟨after_resize_of_ok hresized, resizeEffect_of_ok h.sound hresized⟩
  · intro width' height' straight hwidth hheight hstraight
    exact resize_after_resize h.sound hwidth hheight hstraight

/-- A map of two tiles, of which the second has an object with an id that a spawn entry
    names as well, and an object is put on the first. No width of 0 is accepted. In a
    single column the first object is kept, and it makes no difference if there were seven
    rows before there are two. -/
theorem resize_effect_of_shared_id :
    ∃ d : Document, d.Reachable ∧
      d.resize 0 300 = .error (.width 0) ∧ d.after (.resize 0 300) = d ∧
      ∃ straight, d.resize 1 2 = .ok straight ∧ ResizeEffect d 1 2 straight.value ∧
        ∃ again, (d.after (.resize 1 7)).resize 1 2 = .ok again ∧
          again.value = straight.value := by
  have h := Reachable.after
    (.load (show load sharedIdFile = .ok _ from rfl))
    (.place 0 0 .enemyBoss)
  rcases h.resize_effect 0 300 with ⟨herror, hsame, -, -⟩
  rcases h.resize_effect 1 2 with ⟨-, -, heffect, htwice⟩
  have hrefused := (herror (.width 0)).mpr (Or.inl ⟨rfl, by decide⟩)
  -- Seven rows leave more of the grid than the two that are asked for.
  refine ⟨_, h, hrefused, hsame _ hrefused, _, rfl, (heffect _ rfl).2, ?_⟩
  exact htwice 1 7 _ (by omega) (by omega) rfl

end Document

end TileTriggers
