import TileTriggers.Map.Grid
import TileTriggers.Map.Pool
import TileTriggers.Script.Listing

/-!
# Map Documents

A map under editing: the grid, the lines of its script listing with their
outcomes, the pool of object ids, and what was found amiss when it was loaded.

Lines that do not compile stay in the document, for their author will want to
mend them, but only the lines that compile count: their scripts are what is
saved, and the ids that their spawn entries name are in use.

The same id on a tile and in a spawn entry, or in two spawn entries, is a clash.
It is tolerated, because the author may be about to resolve it, and told. Two
tiles never share an id.

`reconcile` makes the pool agree with the grid and the lines after either was
replaced as a whole. It is the only place where ids are given back in bulk.

## Main definitions

* `Document`: A map under editing.
* `Document.new`: A blank map of a given size.
* `Document.scripts`, `Document.spawnIds`: What the lines amount to.
* `Document.clashes`: The events about ids that are named twice.
* `Document.reconcile`: The document with a pool that fits.
-/

namespace TileTriggers

/-- The largest width and height of a map, either being a byte in its file. -/
def maxDimension : Nat := 255

/-- What is wrong with the size of a map. The width is looked at first. -/
def dimensionError? (width height : Nat) : Option CapacityError :=
  if width = 0 ∨ maxDimension < width then some (.width width)
  else if height = 0 ∨ maxDimension < height then some (.height height)
  else none

/-- A map under editing. -/
structure Document where
  grid : Grid
  lines : List LineReport
  ids : Pool
  warnings : List LoadWarning
  deriving DecidableEq

namespace Document

/-- A blank map without scripts. -/
def new (width height : Nat) : Except CapacityError Document :=
  match dimensionError? width height with
  | some error => .error error
  | none => .ok ⟨.blank width height, [], .fresh, []⟩

/-- The scripts of the lines that compiled, in order. -/
def scripts (d : Document) : List Script :=
  d.lines.filterMap LineReport.script?

/-- The ids that spawn entries name, in order and as often as they occur. -/
def spawnIds (d : Document) : List UInt8 :=
  d.scripts.flatMap Script.spawnIds

/-- The ids that spawn entries name. -/
def spawnSet (d : Document) : IdSet :=
  .ofList d.spawnIds

/-- The ids of the objects on tiles. -/
def tileSet (d : Document) : IdSet :=
  .ofList d.grid.objectIds

/-- The ids that more than one spawn entry names, ascending. The entries may
    belong to one script or to several. -/
def repeatedSpawnIds (d : Document) : List UInt8 :=
  (IdSet.ofList (IdSet.repeats .empty d.spawnIds)).toList

/-- The ids that a tile and a spawn entry name, ascending. -/
def sharedIds (d : Document) : List UInt8 :=
  let onTiles := d.tileSet
  d.spawnSet.toList.filter onTiles.contains

/-- The events about ids that are named twice. -/
def clashes (d : Document) : List Event :=
  d.repeatedSpawnIds.map .spawnedRepeatedly ++ d.sharedIds.map .sharedWithSpawn

/-- The document with a pool that holds exactly the ids of tiles and spawn
    entries, given that it held those of the tiles. Clashes are told, and so is
    every id that is given back. -/
def reconcile (d : Document) : Logged Document :=
  let onTiles := d.tileSet
  let spawned := d.spawnSet
  let reserved : Pool := { d.ids with used := d.ids.used.union spawned }
  let kept := reserved.retain fun id => onTiles.contains id || spawned.contains id
  ⟨{ d with ids := kept.value }, d.clashes ++ kept.log⟩

end Document

end TileTriggers
