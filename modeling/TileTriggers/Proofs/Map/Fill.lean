import TileTriggers.Proofs.Map.Invariant

/-!
# Filling a Rectangle

Filling counts the cells of a rectangle through and works out from the count which cell is
next. What it does is said without counting: the cells are painted one by one, row by row,
as if each were painted on its own, up to the first that refuses. `PaintsCells` says so, with one
constructor for each way to go on.

The count goes on from where it is, and so does the list of events, which grows at its
front. The induction is therefore about the cells that are still to come, for any number of
cells that were painted before and any events that they left.

## Main definitions

* `rectangle`: The cells of a rectangle, row by row.
* `Document.PaintsCells`: Painting cells one by one.

## Theorems

* `map_range_eq_rectangle`: Which cell is next.
* `Document.paintsCells_fillCells`: The cells that are still to come.
* `Document.paintsCells_fill`: Filling is painting cell by cell.
* `Document.Reachable.fill`: Filling is part of a history.
-/

namespace TileTriggers

/-- The cells of a rectangle given by two corners, both inclusive, row by row. -/
def rectangle (x₀ y₀ x₁ y₁ : Nat) : List (Nat × Nat) :=
  (List.range (y₁ + 1 - y₀)).flatMap fun row =>
    (List.range (x₁ + 1 - x₀)).map fun column => (x₀ + column, y₀ + row)

/-- Counting the cells through goes along the rows. -/
theorem map_range_eq_rectangle (x y width height : Nat) :
    (List.range (width * height)).map (fun i => (x + i % width, y + i / width)) =
      (List.range height).flatMap fun row =>
        (List.range width).map fun column => (x + column, y + row) := by
  induction height with
  | zero => rfl
  | succ height ih =>
      rw [Nat.mul_succ, List.range_add, List.map_append, ih, List.range_succ,
        List.flatMap_append, List.flatMap_singleton, List.map_map]
      congr 1
      -- In the last row the count is a multiple of the width and a column.
      refine List.map_congr_left fun column hcolumn => ?_
      rw [List.mem_range] at hcolumn
      rw [Function.comp_apply, Nat.mul_add_mod, Nat.mod_eq_of_lt hcolumn,
        Nat.mul_add_div (Nat.zero_lt_of_lt hcolumn), Nat.div_eq_of_lt hcolumn, Nat.add_zero]

namespace Document

/-- Cells are painted one by one, up to the first that refuses. -/
inductive PaintsCells (kind : TileType) : List (Nat × Nat) → Document → Filled → Prop
  /-- No cell is left. -/
  | done {d : Document} : PaintsCells kind [] d ⟨d, 0, none, []⟩
  /-- The next cell refuses, and those behind it are not looked at. -/
  | refused {d : Document} {x y : Nat} {cells : List (Nat × Nat)} {error : MapError}
      (h : d.place x y kind = .error error) :
      PaintsCells kind ((x, y) :: cells) d ⟨d, 0, some error, []⟩
  /-- The next cell is painted, and the others on the document that this leaves behind. -/
  | painted {d : Document} {x y : Nat} {cells : List (Nat × Nat)} {painted : Logged Document}
      {f : Filled} (h : d.place x y kind = .ok painted)
      (hrest : PaintsCells kind cells painted.value f) :
      PaintsCells kind ((x, y) :: cells) d
        ⟨f.document, f.placed + 1, f.refusal, f.recent ++ painted.log.reverse⟩

variable {d : Document} {kind : TileType}

/-- Filling goes on with the cells that are still to come, whatever was painted before. -/
theorem paintsCells_fillCells (kind : TileType) (x y width n : Nat) (d : Document) (placed : Nat)
    (recent : List Event) :
    ∃ f, PaintsCells kind
        ((List.range' placed n).map fun i => (x + i % width, y + i / width)) d f ∧
      fillCells kind x y width n d placed recent =
        ⟨f.document, placed + f.placed, f.refusal, f.recent ++ recent⟩ := by
  induction n generalizing d placed recent with
  | zero => exact ⟨_, .done, rfl⟩
  | succ n ih =>
      rw [List.range'_succ, List.map_cons, fillCells]
      -- Filling asks for a refusal first and paints then, which is what placing does.
      cases hrefusal : d.refusal? (x + placed % width) (y + placed / width) kind with
      | some error =>
          have hplace : d.place (x + placed % width) (y + placed / width) kind = .error error := by
            rw [place, hrefusal]
          exact ⟨_, .refused hplace, rfl⟩
      | none =>
          have hplace : d.place (x + placed % width) (y + placed / width) kind =
              .ok (d.paint (x + placed % width) (y + placed / width) kind) := by
            rw [place, hrefusal]
          rcases ih (d.paint (x + placed % width) (y + placed / width) kind).value (placed + 1)
            ((d.paint (x + placed % width) (y + placed / width) kind).log.reverse ++ recent) with
            ⟨f, hpaints, heq⟩
          refine ⟨_, .painted hplace hpaints, ?_⟩
          simp only [heq, List.append_assoc, Nat.add_assoc, Nat.add_comm 1]

/-- Filling a rectangle is painting its cells one by one. -/
theorem paintsCells_fill (d : Document) (x₀ y₀ x₁ y₁ : Nat) (kind : TileType) :
    PaintsCells kind (rectangle x₀ y₀ x₁ y₁) d (d.fill x₀ y₀ x₁ y₁ kind) := by
  have hcells := map_range_eq_rectangle x₀ y₀ (x₁ + 1 - x₀) (y₁ + 1 - y₀)
  rcases paintsCells_fillCells kind x₀ y₀ (x₁ + 1 - x₀) ((x₁ + 1 - x₀) * (y₁ + 1 - y₀)) d 0 []
    with ⟨f, hpaints, heq⟩
  -- At the start the count is zero and no event is there, so all cells are still to come.
  rw [← List.range_eq_range', hcells] at hpaints
  rw [Nat.zero_add, List.append_nil] at heq
  rw [fill, heq]
  exact hpaints

/-- What painting cells leads to is the end of a history. -/
theorem PaintsCells.reachable {cells : List (Nat × Nat)} {f : Filled}
    (hf : PaintsCells kind cells d f) (h : d.Reachable) : f.document.Reachable := by
  induction hf with
  | done => exact h
  | refused => exact h
  | @painted d x y cells painted f hplace _ ih =>
      -- A cell that is painted is an edit, so the document behind it has a history as well.
      have hafter : d.after (.place x y kind) = painted.value := by
        rw [after, apply, hplace]
      exact ih (hafter ▸ h.after (.place x y kind))

theorem Reachable.fill (h : d.Reachable) (x₀ y₀ x₁ y₁ : Nat) (kind : TileType) :
    (d.fill x₀ y₀ x₁ y₁ kind).document.Reachable :=
  (paintsCells_fill d x₀ y₀ x₁ y₁ kind).reachable h

end Document

end TileTriggers
