import TileTriggers.Proofs.Map.Invariant

/-!
# Painting One Cell

What painting a cell does and what it leaves alone. A document differs after painting in
one tile and in its pool and in nothing else, and a refused cell leaves it as it was, the
pool with its probe included.

The two reasons for refusing are told apart by the cell: either it is not there, or it is
there and empty and the object that is to come wants an id. For the pool the second means
that no id is free, and it is soundness that turns this into a statement about the map,
that tiles and spawn entries between them name all the ids that there are. In the same
way an id that is handed out is free in the pool, and so it is on no tile and in no spawn
entry.

## Main definitions

* `Document.AlikeOutside`: Documents that differ in one tile and their pools at most.
* `Document.PaintEffect`: The rules of painting.

## Theorems

* `Document.place_eq_error_iff`: When a cell is refused, and why.
* `Document.clear_eq`, `Document.putObject_eq_of_some`, `Document.putObject_eq_of_none`,
  `Document.paint_background`: A painted document, by what is painted.
* `Document.paintEffect_paint`: Painting follows the rules.
* `Document.Reachable.place_effect`: All that painting a cell does.
-/

namespace TileTriggers

namespace Document

/-- Documents that agree but for the tile at some coordinates and the pool. -/
structure AlikeOutside (x y : Nat) (d d' : Document) : Prop where
  width : d'.grid.width = d.grid.width
  height : d'.grid.height = d.grid.height
  tiles : ∀ a b, (a, b) ≠ (x, y) → d'.grid.get? a b = d.grid.get? a b
  lines : d'.lines = d.lines
  warnings : d'.warnings = d.warnings

/-- The rules of painting: the tile and the pool after a tile of a document is painted.

    A background changes the background and nothing else. An object takes over the id of
    the object that is there, and the pool stays as it is. On an empty cell it gets an id
    that no tile and no spawn entry names, and that is the only one that comes into use.
    When an object is taken away, with or without the background, its id goes out of use
    unless a spawn entry names it, and no other id does. -/
inductive PaintEffect (d : Document) : TileType → Tile → Tile → Pool → Prop
  | background {kind : TileType} {t : Tile} (hkind : kind.isObject = false)
      (hempty : kind ≠ .empty) (hdelete : kind ≠ .delete) :
      PaintEffect d kind t { t with background := kind } d.ids
  | replaced {kind : TileType} {t : Tile} (hkind : kind.isObject = true) {id : UInt8}
      (hid : t.objectId? = some id) :
      PaintEffect d kind t { t with object := some ⟨kind, id⟩ } d.ids
  | added {kind : TileType} {t : Tile} (hkind : kind.isObject = true) (hobject : t.object = none)
      {id : UInt8} (htiles : id ∉ d.grid.objectIds) (hspawns : id ∉ d.spawnIds) {ids : Pool}
      (hids : ∀ other, ids.contains other = true ↔ d.ids.contains other = true ∨ other = id) :
      PaintEffect d kind t { t with object := some ⟨kind, id⟩ } ids
  | removed {t : Tile} {ids : Pool}
      (hids : ∀ id, ids.contains id = true ↔
        d.ids.contains id = true ∧ (t.objectId? ≠ some id ∨ id ∈ d.spawnIds)) :
      PaintEffect d .empty t { t with object := none } ids
  | wiped {t : Tile} {ids : Pool}
      (hids : ∀ id, ids.contains id = true ↔
        d.ids.contains id = true ∧ (t.objectId? ≠ some id ∨ id ∈ d.spawnIds)) :
      PaintEffect d .delete t .blank ids

variable {d : Document} {x y : Nat} {t : Tile} {kind : TileType}

/-- A document is alike outside of a tile that is changed, whatever becomes of the pool. -/
theorem alikeOutside_modify (hget : d.grid.get? x y = some t) (f : Tile → Tile) (ids : Pool) :
    AlikeOutside x y d { d with grid := d.grid.modify x y f, ids := ids } where
  width := Grid.width_modify
  height := Grid.height_modify
  tiles _ _ hne := Grid.get?_modify_of_ne hget hne
  lines := rfl
  warnings := rfl

section Refusal

/-- No id is left exactly when tiles and spawn entries name all of them. -/
theorem nextFree?_eq_none_iff_of_sound (hd : d.Sound) :
    d.ids.nextFree? = none ↔ ∀ id, id ∈ d.grid.objectIds ∨ id ∈ d.spawnIds := by
  rw [Pool.nextFree?_eq_none_iff]
  exact forall_congr' hd.ids

/-- A cell is refused when it is not on the map, or when it is empty and an object is to be
    put there for which no id is left. -/
theorem refusal?_eq_some_iff (hd : d.Sound) {e : MapError} :
    d.refusal? x y kind = some e ↔
      e = .outOfBounds x y d.grid.width d.grid.height ∧ (d.grid.width ≤ x ∨ d.grid.height ≤ y) ∨
      e = .capacity .idsExhausted ∧ kind.isObject = true ∧
        (∃ t, d.grid.get? x y = some t ∧ t.object = none) ∧
        ∀ id, id ∈ d.grid.objectIds ∨ id ∈ d.spawnIds := by
  have hnone := Grid.get?_eq_none_iff (x := x) (y := y) hd.grid
  rw [refusal?, ← hnone, ← nextFree?_eq_none_iff_of_sound hd]
  -- A cell that is not on the map is the first reason, and it excludes the second.
  cases hget : d.grid.get? x y with
  | none =>
      simp only [reduceCtorEq, false_and, exists_false, and_false, or_false, and_true,
        Option.some.injEq]
      exact eq_comm
  | some t =>
      simp only [reduceCtorEq, and_false, false_or, Option.some.injEq, exists_eq_left']
      -- On the map a refusal needs all three: an object, an empty cell and no id.
      split_ifs with hrefused
      · simp only [Bool.and_eq_true, Option.isNone_iff_eq_none] at hrefused
        rcases hrefused with ⟨⟨hkind, hobject⟩, hfree⟩
        simp only [Option.some.injEq, hkind, hobject, hfree, and_self, and_true]
        exact eq_comm
      · simp only [Bool.and_eq_true, Option.isNone_iff_eq_none] at hrefused
        simp only [false_iff]
        rintro ⟨-, hkind, hobject, hfree⟩
        exact hrefused ⟨⟨hkind, hobject⟩, hfree⟩

theorem place_eq_error_iff {e : MapError} :
    d.place x y kind = .error e ↔ d.refusal? x y kind = some e := by
  rw [place]
  cases d.refusal? x y kind <;> simp

/-- A cell that is painted is on the map, and if an object is put on an empty cell, there
    is an id for it. -/
theorem of_place_eq_ok {painted : Logged Document} (h : d.place x y kind = .ok painted) :
    painted = d.paint x y kind ∧ ∃ t, d.grid.get? x y = some t ∧
      (kind.isObject = true → t.object = none → ∃ id, d.ids.nextFree? = some id) := by
  rw [place] at h
  cases hrefusal : d.refusal? x y kind with
  | some e =>
      rw [hrefusal] at h
      exact absurd h (by simp only [reduceCtorEq, not_false_eq_true])
  | none =>
      rw [hrefusal] at h
      refine ⟨(Except.ok.inj h).symm, ?_⟩
      -- Nothing was a reason to refuse, so there is a tile and, where it is needed, an id.
      rw [refusal?] at hrefusal
      cases hget : d.grid.get? x y with
      | none =>
          rw [hget] at hrefusal
          exact absurd hrefusal (by simp only [reduceCtorEq, not_false_eq_true])
      | some t =>
          refine ⟨t, rfl, fun hkind hobject => ?_⟩
          rw [hget] at hrefusal
          simp only [hkind, hobject, Option.isNone_none, Bool.and_self, Bool.true_and,
            ite_eq_right_iff, reduceCtorEq, imp_false] at hrefusal
          exact Option.ne_none_iff_exists'.mp fun hnone => hrefusal (by rw [hnone]; rfl)

end Refusal

section Effect

/-- Giving up an id changes the pool alone. -/
theorem abandon_eq (id : UInt8) : ∃ ids, (d.abandon id).value = { d with ids := ids } := by
  rw [abandon]
  split_ifs
  · exact ⟨d.ids, rfl⟩
  · exact ⟨(d.ids.release id).value, rfl⟩

/-- Taking the object from a tile takes its id out of the pool, unless a spawn entry names
    the id. -/
theorem clear_eq (hget : d.grid.get? x y = some t) (background : TileType → TileType) :
    ∃ ids, (d.clear x y background).value =
        { d with grid := d.grid.modify x y fun t => ⟨background t.background, none⟩, ids := ids } ∧
      ∀ id, ids.contains id = true ↔
        d.ids.contains id = true ∧ (t.objectId? ≠ some id ∨ id ∈ d.spawnIds) := by
  rw [clear, hget, Option.bind_some]
  -- A tile without an object gives up no id.
  cases hid : t.objectId? with
  | none => exact ⟨d.ids, rfl, fun id => by simp⟩
  | some own =>
      -- The id is given up on the document whose tile is changed already.
      let cleared : Document :=
        { d with grid := d.grid.modify x y fun t => ⟨background t.background, none⟩ }
      rcases abandon_eq (d := cleared) own with ⟨ids, hids⟩
      refine ⟨ids, hids, fun id => ?_⟩
      have hcontains : (cleared.abandon own).value.ids.contains id = true ↔
          d.ids.contains id = true ∧ (id ≠ own ∨ id ∈ d.spawnIds) := contains_abandon
      rw [hids] at hcontains
      rw [hcontains, ne_eq (some own), Option.some.injEq, eq_comm (a := own)]

/-- An object that replaces another one takes over its id. -/
theorem putObject_eq_of_some (hget : d.grid.get? x y = some t) {id : UInt8}
    (hid : t.objectId? = some id) : (d.putObject x y kind).value =
      { d with grid := d.grid.modify x y fun t => { t with object := some ⟨kind, id⟩ } } := by
  rw [putObject, hget, Option.bind_some, hid]
  rfl

/-- An object on an empty cell has the id that is handed out next. -/
theorem putObject_eq_of_none (hget : d.grid.get? x y = some t) (hobject : t.object = none)
    {id : UInt8} (hnext : d.ids.nextFree? = some id) : (d.putObject x y kind).value =
      { d with
          grid := d.grid.modify x y fun t => { t with object := some ⟨kind, id⟩ }
          ids := ⟨id + 1, d.ids.used.insert id⟩ } := by
  have hid : t.objectId? = none := by rw [Tile.objectId?, hobject, Option.map_none]
  rw [putObject, hget, Option.bind_some, hid, Pool.allocate?, hnext]
  rfl

theorem paint_object (hkind : kind.isObject = true) : d.paint x y kind = d.putObject x y kind := by
  unfold paint
  split
  · exact absurd hkind (by decide)
  · exact absurd hkind (by decide)
  · rw [if_pos hkind]

theorem paint_background (hkind : kind.isObject = false) (hempty : kind ≠ .empty)
    (hdelete : kind ≠ .delete) : (d.paint x y kind).value =
      { d with grid := d.grid.modify x y fun t => { t with background := kind } } := by
  unfold paint
  split
  · exact absurd rfl hdelete
  · exact absurd rfl hempty
  · rw [if_neg (Bool.eq_false_iff.mp hkind)]
    rfl

end Effect

/-- A painted tile and the pool behind it are what the rules say. -/
theorem paintEffect_paint (hd : d.Sound) (hget : d.grid.get? x y = some t)
    (hfree : kind.isObject = true → t.object = none → ∃ id, d.ids.nextFree? = some id) :
    AlikeOutside x y d (d.paint x y kind).value ∧
      ∃ t', (d.paint x y kind).value.grid.get? x y = some t' ∧
        PaintEffect d kind t t' (d.paint x y kind).value.ids := by
  -- The cases are those of painting: an object, no object, nothing at all, a background.
  by_cases hkind : kind.isObject = true
  · rw [paint_object hkind]
    cases hobject : t.object with
    | some o =>
        -- The tile has an object, and the new one takes over its id.
        have hid : t.objectId? = some o.id := by rw [Tile.objectId?, hobject, Option.map_some]
        rw [putObject_eq_of_some hget hid]
        exact ⟨alikeOutside_modify hget _ _, _, Grid.get?_modify_self hget, .replaced hkind hid⟩
    | none =>
        rcases hfree hkind hobject with ⟨id, hnext⟩
        -- An id on a tile or in a spawn entry would be in use.
        have hunused : ¬ (id ∈ d.grid.objectIds ∨ id ∈ d.spawnIds) := by
          rw [← hd.ids, Pool.nextFree?_eq_some hnext]
          exact Bool.false_ne_true
        rw [not_or] at hunused
        rw [putObject_eq_of_none hget hobject hnext]
        refine ⟨alikeOutside_modify hget _ _, _, Grid.get?_modify_self hget,
          .added hkind hobject hunused.1 hunused.2 fun other => ?_⟩
        -- The pool has gained this id and no other.
        change (d.ids.used.insert id).contains other = true ↔ d.ids.used.contains other = true ∨ _
        rw [IdSet.contains_insert, Bool.or_eq_true, beq_iff_eq, eq_comm (a := id)]
  · rw [Bool.not_eq_true] at hkind
    by_cases hempty : kind = .empty
    · rcases clear_eq hget id with ⟨ids, hclear, hids⟩
      rw [hempty, show d.paint x y .empty = d.clear x y id from rfl, hclear]
      exact ⟨alikeOutside_modify hget _ _, _, Grid.get?_modify_self hget, .removed hids⟩
    · by_cases hdelete : kind = .delete
      · rcases clear_eq hget fun _ => .empty with ⟨ids, hclear, hids⟩
        rw [hdelete, show d.paint x y .delete = d.clear x y fun _ => .empty from rfl, hclear]
        exact ⟨alikeOutside_modify hget _ _, _, Grid.get?_modify_self hget, .wiped hids⟩
      · rw [paint_background hkind hempty hdelete]
        exact ⟨alikeOutside_modify hget _ _, _, Grid.get?_modify_self hget,
          .background hkind hempty hdelete⟩

/-- Painting a cell. It is refused exactly when the cell is not on the map, or when an
    object is to be put on an empty cell of a map on which tiles and spawn entries name
    all ids, and a refused cell leaves everything as it was. Otherwise all other tiles,
    the size, the lines and the warnings stay the same, and what becomes of the tile and
    of the ids in use depends on what is painted. -/
theorem Reachable.place_effect (h : d.Reachable) (x y : Nat) (kind : TileType) :
    (∀ e, d.place x y kind = .error e ↔
      e = .outOfBounds x y d.grid.width d.grid.height ∧ (d.grid.width ≤ x ∨ d.grid.height ≤ y) ∨
      e = .capacity .idsExhausted ∧ kind.isObject = true ∧
        (∃ t, d.grid.get? x y = some t ∧ t.object = none) ∧
        ∀ id, id ∈ d.grid.objectIds ∨ id ∈ d.spawnIds) ∧
    (∀ e, d.place x y kind = .error e → d.after (.place x y kind) = d) ∧
    ∀ painted, d.place x y kind = .ok painted →
      d.after (.place x y kind) = painted.value ∧ AlikeOutside x y d painted.value ∧
      ∃ t t', d.grid.get? x y = some t ∧ painted.value.grid.get? x y = some t' ∧
        PaintEffect d kind t t' painted.value.ids := by
  refine ⟨fun e => place_eq_error_iff.trans (refusal?_eq_some_iff h.sound), fun e he => ?_,
    fun painted hpainted => ?_⟩
  · -- A refusal comes before any change, so there is nothing to undo.
    rw [Document.after, Document.apply, he]
  · have hafter : d.after (.place x y kind) = painted.value := by
      rw [Document.after, Document.apply, hpainted]
    rcases of_place_eq_ok hpainted with ⟨rfl, t, hget, hfree⟩
    rcases paintEffect_paint h.sound hget hfree with ⟨halike, t', hget', heffect⟩
    exact ⟨hafter, halike, t, t', hget, hget', heffect⟩

/-- A map with an object on its second tile whose id a spawn entry names as well. A cell
    beside the map is refused. An object that is put on the first tile gets an id of its
    own, and the other tile stays as it is. -/
theorem place_effect_of_shared_id :
    ∃ d : Document, d.Reachable ∧
      d.place 2 0 .enemyBoss = .error (.outOfBounds 2 0 2 1) ∧
      ∃ painted, d.place 0 0 .enemyBoss = .ok painted ∧
        painted.value.grid.get? 1 0 = d.grid.get? 1 0 ∧
        ∃ t t', d.grid.get? 0 0 = some t ∧ painted.value.grid.get? 0 0 = some t' ∧
          PaintEffect d .enemyBoss t t' painted.value.ids := by
  have h := Reachable.load (show load sharedIdFile = .ok _ from rfl)
  have hbeside := ((h.place_effect 2 0 .enemyBoss).1 (.outOfBounds 2 0 2 1)).mpr
    (Or.inl ⟨rfl, Or.inl (by decide +kernel)⟩)
  rcases (h.place_effect 0 0 .enemyBoss).2.2 _ rfl with ⟨-, halike, heffect⟩
  exact ⟨_, h, hbeside, _, rfl, halike.tiles 1 0 (by decide), heffect⟩

end Document

end TileTriggers
