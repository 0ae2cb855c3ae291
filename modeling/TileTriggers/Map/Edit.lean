import TileTriggers.Map.Document

/-!
# Editing a Map

Painting cells, changing the size and replacing the scripts. Whether an edit is
possible is settled before anything is changed, so an edit that fails has no
effect, not even on the pool.

Painting depends on the tile. A background goes to the background layer and an
object to the object layer; an object that is already there is replaced but its
id stays. `empty` takes the object away and `delete` wipes the cell. An id that
is taken from a tile goes back to the pool unless a spawn entry names it too.

## Main definitions

* `Document.place`: Paints one cell.
* `Document.fill`: Paints a rectangle until a cell refuses.
* `Document.resize`: Changes the size.
* `Document.setScriptText`: Replaces the scripts.
* `Document.scriptText`: The listing of the scripts.
-/

namespace TileTriggers

namespace Document

/-- Why a cell cannot be painted. Only a new object needs an id. -/
def refusal? (d : Document) (x y : Nat) (kind : TileType) : Option MapError :=
  match d.grid.get? x y with
  | none => some (.outOfBounds x y d.grid.width d.grid.height)
  | some tile =>
    if kind.isObject && tile.object.isNone && d.ids.nextFree?.isNone then
      some (.capacity .idsExhausted)
    else none

/-- A document in which no tile carries an id any more. The id goes back to the
    pool unless a spawn entry names it. -/
def abandon (d : Document) (id : UInt8) : Logged Document :=
  if d.spawnIds.contains id then .silent d
  else
    let released := d.ids.release id
    ⟨{ d with ids := released.value }, released.log⟩

/-- Takes the object from a tile and changes its background. -/
def clear (d : Document) (x y : Nat) (background : TileType → TileType) : Logged Document :=
  let id? := (d.grid.get? x y).bind Tile.objectId?
  let cleared := { d with grid := d.grid.modify x y fun t => ⟨background t.background, none⟩ }
  match id? with
  | some id => cleared.abandon id
  | none => .silent cleared

/-- Puts an object on a tile. An object that is there already passes its id on. -/
def putObject (d : Document) (x y : Nat) (kind : TileType) : Logged Document :=
  match (d.grid.get? x y).bind Tile.objectId? with
  | some id =>
    .silent { d with grid := d.grid.modify x y fun t => { t with object := some ⟨kind, id⟩ } }
  | none =>
    match d.ids.allocate? with
    | none => .silent d
    | some ⟨(id, ids), log⟩ =>
      ⟨{ d with
          grid := d.grid.modify x y fun t => { t with object := some ⟨kind, id⟩ }
          ids := ids }, log⟩

/-- Paints a cell that does not refuse. -/
def paint (d : Document) (x y : Nat) (kind : TileType) : Logged Document :=
  match kind with
  | .delete => d.clear x y fun _ => .empty
  | .empty => d.clear x y id
  | kind =>
    if kind.isObject then d.putObject x y kind
    else .silent { d with grid := d.grid.modify x y fun t => { t with background := kind } }

/-- Paints one cell. -/
def place (d : Document) (x y : Nat) (kind : TileType) : Except MapError (Logged Document) :=
  match d.refusal? x y kind with
  | some error => .error error
  | none => .ok (d.paint x y kind)

/-- How far painting a rectangle came. -/
structure Filled where
  document : Document
  /-- How many cells were painted. -/
  placed : Nat
  /-- Why the next cell refused, if one did. -/
  refusal : Option MapError
  /-- The events of painting, the latest first. -/
  recent : List Event

/-- Paints the next `n` cells of a rectangle with its corner at `x` and `y`, row by
    row, and stops at the first that refuses. -/
def fillCells (kind : TileType) (x y width : Nat) : Nat → Document → Nat → List Event → Filled
  | 0, d, placed, recent => ⟨d, placed, none, recent⟩
  | n + 1, d, placed, recent =>
    let column := x + placed % width
    let row := y + placed / width
    match d.refusal? column row kind with
    | some error => ⟨d, placed, some error, recent⟩
    | none =>
      let painted := d.paint column row kind
      fillCells kind x y width n painted.value (placed + 1) (painted.log.reverse ++ recent)

/-- Paints a rectangle given by two corners, both inclusive. -/
def fill (d : Document) (x₀ y₀ x₁ y₁ : Nat) (kind : TileType) : Filled :=
  let width := x₁ + 1 - x₀
  let height := y₁ + 1 - y₀
  fillCells kind x₀ y₀ width (width * height) d 0 []

/-- Changes the size of a map. Objects that are cut off lose their ids. -/
def resize (d : Document) (width height : Nat) : Except CapacityError (Logged Document) :=
  match dimensionError? width height with
  | some error => .error error
  | none => .ok { d with grid := d.grid.resized width height }.reconcile

/-- Replaces all script lines. What was found amiss with the former ones is
    forgotten along with them. -/
def setScriptText (d : Document) (listing : String) : Logged Document :=
  { d with lines := compileListing listing, warnings := [] }.reconcile

/-- The script lines joined by line feeds, those that did not compile included. -/
def scriptText (d : Document) : String :=
  String.ofList (['\n'].intercalate (d.lines.map fun line => line.text.toList))

end Document

end TileTriggers
