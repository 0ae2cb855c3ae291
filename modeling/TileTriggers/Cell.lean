import TileTriggers.TileType
import TileTriggers.Text.Decimal

/-!
# Cells and Spawns

The coordinates that scripts refer to, and the objects that a script can bring
into the world. Maps are at most 255 cells wide and high, so both coordinates
are single bytes; nothing here knows the size of a particular map.

## Main definitions

* `Cell`: A pair of coordinates, written `{x.y}`.
* `Spawn`: An object with its id and its cell, written `{TYPE-id-x.y}`.
-/

namespace TileTriggers

/-- The coordinates of a map cell. -/
structure Cell where
  x : UInt8
  y : UInt8
  deriving DecidableEq, Repr

/-- The coordinates as they stand between braces, separated by a point. -/
def Cell.coordinates (c : Cell) : List Char :=
  Decimal.digits c.x.toNat ++ '.' :: Decimal.digits c.y.toNat

/-- The script text of a cell. -/
def Cell.render (c : Cell) : List Char :=
  '{' :: (c.coordinates ++ ['}'])

/-- An object that a script brings into the world. -/
structure Spawn where
  kind : TileType
  id : UInt8
  cell : Cell
  deriving DecidableEq, Repr

/-- The script text of a spawn. -/
def Spawn.render (s : Spawn) : List Char :=
  '{' :: (s.kind.keyword.toList ++ '-' :: (Decimal.digits s.id.toNat ++
    '-' :: (s.cell.coordinates ++ ['}'])))

end TileTriggers
