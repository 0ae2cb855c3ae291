import TileTriggers.TileType

/-!
# The Grid of Tiles

A tile is a background with possibly an object on it, and an object is a type
together with its id. Joining the two leaves no way to have an object without an
id or an id without an object.

The grid keeps its tiles in rows from top to bottom, each from left to right, in
one array. A position of the array and a pair of coordinates determine each other
through the width, and every operation that looks at the outside of the map is
written in coordinates.

## Main definitions

* `Tile`: The content of a cell.
* `Grid`: Tiles in rows.
* `Grid.get?`, `Grid.modify`: A single tile.
* `Grid.resized`: The grid cut or extended to another size.
* `Grid.cells`: The tiles with their coordinates.
-/

namespace TileTriggers

/-- An object on a tile. -/
structure PlacedObject where
  kind : TileType
  id : UInt8
  deriving DecidableEq, Repr

/-- The content of a map cell. -/
structure Tile where
  background : TileType
  object : Option PlacedObject
  deriving DecidableEq, Repr

namespace Tile

/-- The tile with nothing on it. -/
def blank : Tile :=
  ⟨.empty, none⟩

/-- What stands in the object layer: the object's type, or `empty`. -/
def objectType (t : Tile) : TileType :=
  match t.object with
  | some o => o.kind
  | none => .empty

/-- The id of the object, if there is one. -/
def objectId? (t : Tile) : Option UInt8 :=
  t.object.map PlacedObject.id

end Tile

/-- Tiles in rows: top to bottom, and left to right within a row. -/
structure Grid where
  width : Nat
  height : Nat
  tiles : Array Tile
  deriving DecidableEq, Repr

namespace Grid

/-- The grid of a given size with nothing on it. -/
def blank (width height : Nat) : Grid :=
  ⟨width, height, Array.replicate (width * height) .blank⟩

/-- Whether coordinates lie on the grid. -/
def inside (g : Grid) (x y : Nat) : Bool :=
  x < g.width && y < g.height

/-- The tile at some coordinates, if they lie on the grid. -/
def get? (g : Grid) (x y : Nat) : Option Tile :=
  if g.inside x y then g.tiles[y * g.width + x]? else none

/-- The grid with one tile changed. Coordinates outside change nothing. -/
def modify (g : Grid) (x y : Nat) (f : Tile → Tile) : Grid :=
  if g.inside x y then { g with tiles := g.tiles.modify (y * g.width + x) f } else g

/-- The grid cut or extended to another size. What lies on both keeps its
    coordinates, and what is new is blank. -/
def resized (g : Grid) (width height : Nat) : Grid :=
  ⟨width, height, Array.ofFn fun i : Fin (width * height) =>
    (g.get? (i % width) (i / width)).getD .blank⟩

/-- The tiles with their coordinates, row by row. -/
def cells (g : Grid) : List (Nat × Nat × Tile) :=
  g.tiles.toList.mapIdx fun i t => (i % g.width, i / g.width, t)

/-- The ids of the objects on the grid, row by row. -/
def objectIds (g : Grid) : List UInt8 :=
  g.tiles.toList.filterMap Tile.objectId?

end Grid

end TileTriggers
