import TileTriggers.Map.Document
import TileTriggers.Payload.Script

/-!
# Map Files

A map file holds the width and the height, a byte each, then the tiles row by
row, then the scripts. A tile is its background and its object, a byte each, and
behind an object its id. The scripts follow a byte that counts them, and each is
a slot of two bytes of length and a payload of that length.

The tiles must be intact, for a map with a hole in it is of no use. Scripts can
be lost one by one. A payload that does not read is dropped and its slot
reported; a slot that the data cuts off is reported and ends the reading. A file
that ends right behind the tiles has no scripts and nothing wrong with it.

Saving writes only what loading accepts. Nothing is written unless every count
and every length fits its bytes.

## Main definitions

* `Read.grid`: The header and the tiles.
* `ScriptSlots.ofCursor`: What follows them.
* `Document.ofSections`: The document of both.
* `Document.load`: The document of a file.
* `Document.save`: The file of a document.
-/

namespace TileTriggers

/-- The most scripts that a map file can hold. -/
def maxScripts : Nat := 255

/-- The longest payload that a script slot can hold. -/
def maxScriptLength : Nat := 65535

namespace Read

/-- A reader of raw data among those of maps. -/
def raw {α : Type} (r : Read FormatError α) : Read MapError α :=
  adaptError .format r

/-- A tile whose background and whose object layer's type are read already, and the
    ids used so far with its own. -/
def layered (background kind : TileType) (x y : Nat) (seen : IdSet) :
    Read MapError (Tile × IdSet) :=
  if kind == .empty then
    return (⟨background, none⟩, seen)
  else if kind.isObject then do
    let id ← raw byte
    if seen.contains id then fail (.duplicateObjectId id x y)
    else return (⟨background, some ⟨kind, id⟩⟩, seen.insert id)
  else fail (.misplacedTile kind .object x y)

/-- The tile at some coordinates, and the ids used so far with its own. -/
def tile (x y : Nat) (seen : IdSet) : Read MapError (Tile × IdSet) := do
  let background ← raw tileType
  if background.isObject || background == .delete then
    fail (.misplacedTile background .background x y)
  else
    let kind ← raw tileType
    layered background kind x y seen

/-- The next `n` tiles behind those that were read, in rows of some width. -/
def tiles (width : Nat) : Nat → Array Tile → IdSet → Read MapError (Array Tile × IdSet)
  | 0, done, seen => pure (done, seen)
  | n + 1, done, seen => do
    let (t, seen) ← tile (done.size % width) (done.size / width) seen
    tiles width n (done.push t) seen

/-- The header and the tiles: a grid and the ids on it. -/
def grid : Read MapError (Grid × IdSet) := do
  let width := (← raw byte).toNat
  let height := (← raw byte).toNat
  match dimensionError? width height with
  | some error => fail (.capacity error)
  | none =>
    let (tiles, seen) ← tiles width (width * height) #[] .empty
    return (⟨width, height, tiles⟩, seen)

/-- The payload of a script slot. -/
def slot : Read FormatError (List UInt8) := do
  let length ← number 2
  bytes length

end Read

/-- What was found in the script section of a file. -/
structure ScriptSlots where
  /-- What each slot held, in order; a slot that is cut off is the last. -/
  results : List (Except FormatError Script)
  /-- How many bytes follow the last slot. -/
  leftover : Nat

namespace ScriptSlots

/-- The next `n` slots, up to the one that is cut off. Nothing counts as left
    behind such a slot. -/
def read : Nat → Cursor → ScriptSlots
  | 0, c => ⟨[], c.remaining⟩
  | n + 1, c =>
    match Read.slot c with
    | .error error => ⟨[.error error], 0⟩
    | .ok (payload, c) =>
      let behind := read n c
      ⟨Script.decode payload :: behind.results, behind.leftover⟩

/-- The script section that begins at a cursor. At the end of the data there is
    none, and so no slots. -/
def ofCursor (c : Cursor) : ScriptSlots :=
  match Read.byte c with
  | .error _ => ⟨[], 0⟩
  | .ok (count, c) => read count.toNat c

/-- The scripts of the slots that could be read. -/
def scripts (s : ScriptSlots) : List Script :=
  s.results.filterMap Except.toOption

/-- What is wrong with a slot at some position. -/
def damage? (index : Nat) : Except FormatError Script → Option LoadWarning
  | .error error => some (.corruptScript index error)
  | .ok _ => none

/-- What is wrong with the slots, and how much data follows them. -/
def warnings (s : ScriptSlots) : List LoadWarning :=
  (s.results.mapIdx damage?).filterMap id ++
    if s.leftover = 0 then [] else [.trailingBytes s.leftover]

end ScriptSlots

/-- The line that stands for a script without a listing: its canonical text. -/
def LineReport.ofScript (index : Nat) (script : Script) : LineReport :=
  ⟨index + 1, script.text, .ok script⟩

/-- The spawn entries of a script whose ids are on tiles. -/
def spawnConflicts (onTiles : IdSet) (index : Nat) (script : Script) : List LoadWarning :=
  (script.spawnIds.filter onTiles.contains).map (.spawnIdConflict index)

namespace Document

/-- The document of a grid, the ids on it and the script slots behind it. -/
def ofSections (grid : Grid) (onTiles : IdSet) (slots : ScriptSlots) : Logged Document :=
  let scripts := slots.scripts
  let warnings := slots.warnings ++ (scripts.mapIdx (spawnConflicts onTiles)).flatten
  let used := (scripts.flatMap Script.spawnIds).foldl IdSet.insert onTiles
  let d : Document := ⟨grid, scripts.mapIdx LineReport.ofScript, ⟨0, used⟩, warnings⟩
  let told : Event :=
    .loaded grid.width grid.height used.size scripts.length warnings.length
  ⟨d, warnings.map .recovered ++ told :: d.repeatedSpawnIds.map .spawnedRepeatedly⟩

/-- The document of a map file. -/
def load (data : List UInt8) : Except MapError (Logged Document) := do
  let ((grid, onTiles), c) ← Read.grid (Cursor.start data)
  return ofSections grid onTiles (ScriptSlots.ofCursor c)

/-- The bytes of a tile. -/
def tileBytes (t : Tile) : List UInt8 :=
  match t.object with
  | none => [t.background.byte, TileType.empty.byte]
  | some o => [t.background.byte, o.kind.byte, o.id]

/-- The payload of the script at some position among those to be saved. -/
def payloadAt (script : Script) (index : Nat) : Except MapError (List UInt8) :=
  match script.encode with
  | .error violation => .error (.script violation)
  | .ok payload =>
    if maxScriptLength < payload.length then
      .error (.capacity (.scriptLength index payload.length))
    else .ok payload

/-- The bytes of a script slot. -/
def slotBytes (payload : List UInt8) : List UInt8 :=
  bigEndian 2 payload.length ++ payload

/-- The file of a document. Only the lines that compiled are in it. -/
def save (d : Document) : Except MapError (Logged (List UInt8)) := do
  if let some error := dimensionError? d.grid.width d.grid.height then
    throw (.capacity error)
  let scripts := d.scripts
  if maxScripts < scripts.length then
    throw (.capacity (.scriptCount scripts.length))
  let payloads ← scripts.zipIdx.mapM fun (script, index) => payloadAt script index
  let bytes := UInt8.ofNat d.grid.width :: UInt8.ofNat d.grid.height ::
    (d.grid.tiles.toList.flatMap tileBytes ++
      UInt8.ofNat payloads.length :: payloads.flatMap slotBytes)
  return ⟨bytes, [.saved d.grid.width d.grid.height payloads.length bytes.length]⟩

end Document

end TileTriggers
