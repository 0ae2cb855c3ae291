import TileTriggers.Vocabulary

/-!
# Tile Types

Everything that a map cell can hold. A cell has two layers: a background, and
possibly an object on top of it. One vocabulary names the tiles of both, and the
byte of a tile says which layer it belongs to.

The eight bits of a tile's byte are a small record: the top bit is set for
objects, the next two select a category within the layer, and the low five
number the variants of a category. Nothing stores these parts separately, so
they are computed from the byte and cannot disagree with it.

Two words are instructions to an editor rather than tiles. `empty` stands for no
object, and `delete` wipes a whole cell; the latter never occurs in a map file.

## Main definitions

* `TileType`: The tile vocabulary.
* `TileType.isObject`: Whether a tile belongs to the object layer.
* `TileType.category`, `TileType.variant`: The other parts of its byte.
* `Layer`: The two layers of a cell.
-/

namespace TileTriggers

/-- The two layers of a map cell. -/
inductive Layer
  | background | object
  deriving DecidableEq, Repr

/-- The name of a layer in messages. -/
def Layer.label : Layer → String
  | .background => "background"
  | .object => "object"

/-- The groups of tiles within a layer: four of backgrounds, four of objects. -/
inductive Category
  | special | floor | wall | door | item | enemy | bullet | scenery
  deriving DecidableEq, Repr

/-- The name of a category in listings of the vocabulary. -/
def Category.label : Category → String
  | .special => "meta"
  | .floor => "floor"
  | .wall => "wall"
  | .door => "door"
  | .item => "item"
  | .enemy => "enemy"
  | .bullet => "bullet"
  | .scenery => "scenery"

/-- What a map cell can hold in one of its layers, and the two editing words
    `empty` and `delete`. -/
inductive TileType
  | empty | delete | floor | floorWater | floorLava | ceiling | wall1 | wall2 | wall3
  | wall4 | wall5 | door | doorCharge | doorMissile | doorIce | doorXray | doorScript
  | doorKeyA | doorKeyB | doorKeyC | itemBeam | itemChargeBeam | itemMissile | itemIce
  | itemXray | itemSuitWater | itemSuitLava | itemEnergyTank | itemKeyA | itemKeyB
  | itemKeyC | itemArtifact | itemPickupEnergy | itemPickupMissile | enemyStartPoint
  | enemyNormal | enemyStrong | enemyArmored | enemyFlaming | enemyHidden | enemyBoss
  | bulletNormal | bulletCharge | bulletIce | bulletMissile | bulletXray | sceneryTerminal
  | sceneryPortal
  deriving DecidableEq, Repr, Inhabited

namespace TileType

/-- The byte of a tile in map files and in script payloads. -/
def byte : TileType → UInt8
  | .empty => 0x00
  | .delete => 0x01
  | .floor => 0x21
  | .floorWater => 0x22
  | .floorLava => 0x23
  | .ceiling => 0x24
  | .wall1 => 0x41
  | .wall2 => 0x42
  | .wall3 => 0x43
  | .wall4 => 0x44
  | .wall5 => 0x45
  | .door => 0x61
  | .doorCharge => 0x62
  | .doorMissile => 0x63
  | .doorIce => 0x64
  | .doorXray => 0x65
  | .doorScript => 0x66
  | .doorKeyA => 0x67
  | .doorKeyB => 0x68
  | .doorKeyC => 0x69
  | .itemBeam => 0x81
  | .itemChargeBeam => 0x82
  | .itemMissile => 0x83
  | .itemIce => 0x84
  | .itemXray => 0x85
  | .itemSuitWater => 0x86
  | .itemSuitLava => 0x87
  | .itemEnergyTank => 0x88
  | .itemKeyA => 0x89
  | .itemKeyB => 0x8a
  | .itemKeyC => 0x8b
  | .itemArtifact => 0x8c
  | .itemPickupEnergy => 0x8d
  | .itemPickupMissile => 0x8e
  | .enemyStartPoint => 0xa1
  | .enemyNormal => 0xa2
  | .enemyStrong => 0xa3
  | .enemyArmored => 0xa4
  | .enemyFlaming => 0xa5
  | .enemyHidden => 0xa6
  | .enemyBoss => 0xa7
  | .bulletNormal => 0xcf
  | .bulletCharge => 0xd0
  | .bulletIce => 0xd1
  | .bulletMissile => 0xd2
  | .bulletXray => 0xd3
  | .sceneryTerminal => 0xe1
  | .sceneryPortal => 0xe2

/-- The keyword of a tile in script text. -/
def keyword : TileType → String
  | .empty => "EMPTY"
  | .delete => "DELETE"
  | .floor => "BG_FLOOR"
  | .floorWater => "BG_FLOOR_WATER"
  | .floorLava => "BG_FLOOR_LAVA"
  | .ceiling => "BG_CEILING"
  | .wall1 => "BG_WALL_1"
  | .wall2 => "BG_WALL_2"
  | .wall3 => "BG_WALL_3"
  | .wall4 => "BG_WALL_4"
  | .wall5 => "BG_WALL_5"
  | .door => "BG_DOOR"
  | .doorCharge => "BG_DOOR_CHARGE"
  | .doorMissile => "BG_DOOR_MISSILE"
  | .doorIce => "BG_DOOR_ICE"
  | .doorXray => "BG_DOOR_XRAY"
  | .doorScript => "BG_DOOR_SCRIPT"
  | .doorKeyA => "BG_DOOR_KEY_A"
  | .doorKeyB => "BG_DOOR_KEY_B"
  | .doorKeyC => "BG_DOOR_KEY_C"
  | .itemBeam => "OBJ_ITEM_BEAM"
  | .itemChargeBeam => "OBJ_ITEM_CHARGE_BEAM"
  | .itemMissile => "OBJ_ITEM_MISSILE"
  | .itemIce => "OBJ_ITEM_ICE"
  | .itemXray => "OBJ_ITEM_XRAY"
  | .itemSuitWater => "OBJ_ITEM_SUIT_WATER"
  | .itemSuitLava => "OBJ_ITEM_SUIT_LAVA"
  | .itemEnergyTank => "OBJ_ITEM_ENERGY_TANK"
  | .itemKeyA => "OBJ_ITEM_KEY_A"
  | .itemKeyB => "OBJ_ITEM_KEY_B"
  | .itemKeyC => "OBJ_ITEM_KEY_C"
  | .itemArtifact => "OBJ_ITEM_ARTIFACT"
  | .itemPickupEnergy => "OBJ_ITEM_PICKUP_ENERGY"
  | .itemPickupMissile => "OBJ_ITEM_PICKUP_MISSILE"
  | .enemyStartPoint => "OBJ_ENEMY_START_POINT"
  | .enemyNormal => "OBJ_ENEMY_NORMAL"
  | .enemyStrong => "OBJ_ENEMY_STRONG"
  | .enemyArmored => "OBJ_ENEMY_ARMORED"
  | .enemyFlaming => "OBJ_ENEMY_FLAMING"
  | .enemyHidden => "OBJ_ENEMY_HIDDEN"
  | .enemyBoss => "OBJ_ENEMY_BOSS"
  | .bulletNormal => "OBJ_BULLET_NORMAL"
  | .bulletCharge => "OBJ_BULLET_CHARGE"
  | .bulletIce => "OBJ_BULLET_ICE"
  | .bulletMissile => "OBJ_BULLET_MISSILE"
  | .bulletXray => "OBJ_BULLET_XRAY"
  | .sceneryTerminal => "OBJ_SCENERY_TERMINAL"
  | .sceneryPortal => "OBJ_SCENERY_PORTAL"

/-- Every tile, in the order of the bytes. -/
def all : List TileType :=
  [.empty, .delete, .floor, .floorWater, .floorLava, .ceiling, .wall1, .wall2, .wall3,
   .wall4, .wall5, .door, .doorCharge, .doorMissile, .doorIce, .doorXray, .doorScript,
   .doorKeyA, .doorKeyB, .doorKeyC, .itemBeam, .itemChargeBeam, .itemMissile, .itemIce,
   .itemXray, .itemSuitWater, .itemSuitLava, .itemEnergyTank, .itemKeyA, .itemKeyB,
   .itemKeyC, .itemArtifact, .itemPickupEnergy, .itemPickupMissile, .enemyStartPoint,
   .enemyNormal, .enemyStrong, .enemyArmored, .enemyFlaming, .enemyHidden, .enemyBoss,
   .bulletNormal, .bulletCharge, .bulletIce, .bulletMissile, .bulletXray, .sceneryTerminal,
   .sceneryPortal]

instance : Vocabulary TileType where
  words := all
  byte := byte
  keyword := keyword

/-- Whether a tile belongs to the object layer: the top bit of its byte. -/
def isObject (t : TileType) : Bool :=
  t.byte &&& 0x80 != 0

/-- The number of a tile within its category: the low five bits of its byte. -/
def variant (t : TileType) : UInt8 :=
  t.byte &&& 0x1f

/-- The category of a tile: the two bits of its byte below the layer bit. -/
def category (t : TileType) : Category :=
  match t.isObject, (t.byte &&& 0x60) >>> 5 with
  | false, 0 => .special
  | false, 1 => .floor
  | false, 2 => .wall
  | false, _ => .door
  | true, 0 => .item
  | true, 1 => .enemy
  | true, 2 => .bullet
  | true, _ => .scenery

end TileType

end TileTriggers
